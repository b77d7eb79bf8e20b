/-!
When the clocks of time zones were set to another offset from universal time.
-/

namespace KeyedRecords.ZoneTable

/-- The second from which on a clock runs at an offset, and the offset in seconds. -/
abbrev Change := Int × Int

/-- The changes in Paris up to 1995. Later ones follow the European rule. -/
def paris : List Change :=
  [(-1855958961, 0), (-1689814800, 3600), (-1680397200, 0), (-1665363600, 3600),
    (-1648342800, 0), (-1635123600, 3600), (-1616893200, 0), (-1604278800, 3600),
    (-1585443600, 0), (-1574038800, 3600), (-1552266000, 0), (-1539997200, 3600),
    (-1520557200, 0), (-1507510800, 3600), (-1490576400, 0), (-1470618000, 3600),
    (-1459126800, 0), (-1444006800, 3600), (-1427677200, 0), (-1411952400, 3600),
    (-1396227600, 0), (-1379293200, 3600), (-1364778000, 0), (-1348448400, 3600),
    (-1333328400, 0), (-1316394000, 3600), (-1301274000, 0), (-1284339600, 3600),
    (-1269824400, 0), (-1253494800, 3600), (-1238374800, 0), (-1221440400, 3600),
    (-1206925200, 0), (-1191200400, 3600), (-1175475600, 0), (-1160355600, 3600),
    (-1143421200, 0), (-1127696400, 3600), (-1111971600, 0), (-1096851600, 3600),
    (-1080522000, 0), (-1063587600, 3600), (-1049072400, 0), (-1033347600, 3600),
    (-1017622800, 0), (-1002502800, 3600), (-986173200, 0), (-969238800, 3600), (-950490000, 0),
    (-942012000, 3600), (-932436000, 7200), (-857257200, 3600), (-844556400, 7200),
    (-828226800, 3600), (-812502000, 7200), (-796266000, 3600), (-781052400, 7200),
    (-766623600, 3600), (196819200, 7200), (212540400, 3600), (228877200, 7200),
    (243997200, 3600), (260326800, 7200), (276051600, 3600), (291776400, 7200), (307501200, 3600),
    (323830800, 7200), (338950800, 3600), (354675600, 7200), (370400400, 3600), (386125200, 7200),
    (401850000, 3600), (417574800, 7200), (433299600, 3600), (449024400, 7200), (465354000, 3600),
    (481078800, 7200), (496803600, 3600), (512528400, 7200), (528253200, 3600), (543978000, 7200),
    (559702800, 3600), (575427600, 7200), (591152400, 3600), (606877200, 7200), (622602000, 3600),
    (638326800, 7200), (654656400, 3600), (670381200, 7200), (686106000, 3600), (701830800, 7200),
    (717555600, 3600), (733280400, 7200), (749005200, 3600), (764730000, 7200), (780454800, 3600),
    (796179600, 7200), (811904400, 3600)]

def kolkata : List Change :=
  [(-3645237208, 21200), (-3155694800, 19270), (-2019705670, 19800), (-891581400, 23400),
    (-872058600, 19800), (-862637400, 23400), (-764145000, 19800)]

end KeyedRecords.ZoneTable
