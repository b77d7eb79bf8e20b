/-!
What characters count as in the names of hosts.
-/

namespace KeyedRecords.Domain

/-- Ranges of code points that no name has, besides those without a shape. -/
def deniedRanges : List (Nat × Nat) :=
  [(0xA8, 0xA8), (0xAF, 0xAF), (0xB4, 0xB4), (0xB8, 0xB8), (0x2D8, 0x2DD), (0x37A, 0x37A),
   (0x384, 0x385), (0x1806, 0x1806), (0x1FBD, 0x1FBD), (0x1FBF, 0x1FC1), (0x1FCD, 0x1FCF),
   (0x1FDD, 0x1FDF), (0x1FED, 0x1FEE), (0x1FFD, 0x1FFE), (0x2017, 0x2017), (0x2024, 0x2026),
   (0x203E, 0x203E), (0x2047, 0x2049), (0x2100, 0x2101), (0x2105, 0x2106), (0x2488, 0x249B),
   (0x2A74, 0x2A74), (0x2FF0, 0x2FFB), (0x309B, 0x309C), (0x33C2, 0x33C2), (0x33C7, 0x33C7),
   (0x33D8, 0x33D8), (0xFC5E, 0xFC63), (0xFDFA, 0xFDFB), (0xFE12, 0xFE13), (0xFE16, 0xFE16),
   (0xFE19, 0xFE19), (0xFE30, 0xFE30), (0xFE47, 0xFE4C), (0xFE52, 0xFE52), (0xFE55, 0xFE56),
   (0xFE5F, 0xFE5F), (0xFE64, 0xFE65), (0xFE68, 0xFE68), (0xFE6A, 0xFE6B), (0xFE70, 0xFE70),
   (0xFE72, 0xFE72), (0xFE74, 0xFE74), (0xFE76, 0xFE76), (0xFE78, 0xFE78), (0xFE7A, 0xFE7A),
   (0xFE7C, 0xFE7C), (0xFE7E, 0xFE7E), (0xFF03, 0xFF03), (0xFF05, 0xFF05), (0xFF0F, 0xFF0F),
   (0xFF1A, 0xFF1A), (0xFF1C, 0xFF1C), (0xFF1E, 0xFF20), (0xFF3B, 0xFF3E), (0xFF5C, 0xFF5C),
   (0xFFE3, 0xFFE3), (0xFFFC, 0xFFFD), (0x1F100, 0x1F100)]

/-- Code points that stand for characters of ASCII: the first and the last of a range, and what the
first one stands for; the others stand for what follows it. -/
def asciiRuns : List (Nat × Nat × Char) :=
  [(0xAA, 0xAA, 'a'), (0xB2, 0xB3, '2'), (0xB9, 0xB9, '1'), (0xBA, 0xBA, 'o'), (0x17F, 0x17F, 's'),
   (0x2B0, 0x2B0, 'h'), (0x2B2, 0x2B2, 'j'), (0x2B3, 0x2B3, 'r'), (0x2B7, 0x2B7, 'w'),
   (0x2B8, 0x2B8, 'y'), (0x2E1, 0x2E1, 'l'), (0x2E2, 0x2E2, 's'), (0x2E3, 0x2E3, 'x'),
   (0x37E, 0x37E, ';'), (0x1D2C, 0x1D2C, 'a'), (0x1D2E, 0x1D2E, 'b'), (0x1D30, 0x1D31, 'd'),
   (0x1D33, 0x1D3A, 'g'), (0x1D3C, 0x1D3C, 'o'), (0x1D3E, 0x1D3E, 'p'), (0x1D3F, 0x1D3F, 'r'),
   (0x1D40, 0x1D41, 't'), (0x1D42, 0x1D42, 'w'), (0x1D43, 0x1D43, 'a'), (0x1D47, 0x1D47, 'b'),
   (0x1D48, 0x1D49, 'd'), (0x1D4D, 0x1D4D, 'g'), (0x1D4F, 0x1D4F, 'k'), (0x1D50, 0x1D50, 'm'),
   (0x1D52, 0x1D52, 'o'), (0x1D56, 0x1D56, 'p'), (0x1D57, 0x1D58, 't'), (0x1D5B, 0x1D5B, 'v'),
   (0x1D62, 0x1D62, 'i'), (0x1D63, 0x1D63, 'r'), (0x1D64, 0x1D65, 'u'), (0x1D9C, 0x1D9C, 'c'),
   (0x1DA0, 0x1DA0, 'f'), (0x1DBB, 0x1DBB, 'z'), (0x1FEF, 0x1FEF, '\x60'), (0x2070, 0x2070, '0'),
   (0x2071, 0x2071, 'i'), (0x2074, 0x2079, '4'), (0x207A, 0x207A, '+'), (0x207C, 0x207C, '='),
   (0x207D, 0x207E, '('), (0x207F, 0x207F, 'n'), (0x2080, 0x2089, '0'), (0x208A, 0x208A, '+'),
   (0x208C, 0x208C, '='), (0x208D, 0x208E, '('), (0x2090, 0x2090, 'a'), (0x2091, 0x2091, 'e'),
   (0x2092, 0x2092, 'o'), (0x2093, 0x2093, 'x'), (0x2095, 0x2095, 'h'), (0x2096, 0x2099, 'k'),
   (0x209A, 0x209A, 'p'), (0x209B, 0x209C, 's'), (0x2102, 0x2102, 'c'), (0x210A, 0x210B, 'g'),
   (0x210C, 0x210C, 'h'), (0x210D, 0x210D, 'h'), (0x210E, 0x210E, 'h'), (0x2110, 0x2110, 'i'),
   (0x2111, 0x2111, 'i'), (0x2112, 0x2112, 'l'), (0x2113, 0x2113, 'l'), (0x2115, 0x2115, 'n'),
   (0x2119, 0x211B, 'p'), (0x211C, 0x211C, 'r'), (0x211D, 0x211D, 'r'), (0x2124, 0x2124, 'z'),
   (0x2128, 0x2128, 'z'), (0x212A, 0x212A, 'k'), (0x212C, 0x212D, 'b'), (0x212F, 0x212F, 'e'),
   (0x2130, 0x2131, 'e'), (0x2133, 0x2133, 'm'), (0x2134, 0x2134, 'o'), (0x2139, 0x2139, 'i'),
   (0x2145, 0x2145, 'd'), (0x2146, 0x2147, 'd'), (0x2148, 0x2149, 'i'), (0x2160, 0x2160, 'i'),
   (0x2164, 0x2164, 'v'), (0x2169, 0x2169, 'x'), (0x216C, 0x216C, 'l'), (0x216D, 0x216E, 'c'),
   (0x216F, 0x216F, 'm'), (0x2170, 0x2170, 'i'), (0x2174, 0x2174, 'v'), (0x2179, 0x2179, 'x'),
   (0x217C, 0x217C, 'l'), (0x217D, 0x217E, 'c'), (0x217F, 0x217F, 'm'), (0x2460, 0x2468, '1'),
   (0x24B6, 0x24CF, 'a'), (0x24D0, 0x24E9, 'a'), (0x24EA, 0x24EA, '0'), (0x2C7C, 0x2C7C, 'j'),
   (0x2C7D, 0x2C7D, 'v'), (0x3002, 0x3002, '.'), (0xA7F1, 0xA7F1, 's'), (0xA7F2, 0xA7F2, 'c'),
   (0xA7F3, 0xA7F3, 'f'), (0xA7F4, 0xA7F4, 'q'), (0xFB29, 0xFB29, '+'), (0xFE10, 0xFE10, ','),
   (0xFE14, 0xFE14, ';'), (0xFE15, 0xFE15, '!'), (0xFE33, 0xFE33, '_'), (0xFE34, 0xFE34, '_'),
   (0xFE35, 0xFE36, '('), (0xFE37, 0xFE37, '\x7b'), (0xFE38, 0xFE38, '\x7d'), (0xFE4D, 0xFE4D, '_'),
   (0xFE4E, 0xFE4E, '_'), (0xFE4F, 0xFE4F, '_'), (0xFE50, 0xFE50, ','), (0xFE54, 0xFE54, ';'),
   (0xFE57, 0xFE57, '!'), (0xFE59, 0xFE5A, '('), (0xFE5B, 0xFE5B, '\x7b'), (0xFE5C, 0xFE5C, '\x7d'),
   (0xFE60, 0xFE60, '&'), (0xFE61, 0xFE62, '*'), (0xFE63, 0xFE63, '-'), (0xFE66, 0xFE66, '='),
   (0xFE69, 0xFE69, '$'), (0xFF01, 0xFF02, '!'), (0xFF04, 0xFF04, '$'), (0xFF06, 0xFF0E, '&'),
   (0xFF10, 0xFF19, '0'), (0xFF1B, 0xFF1B, ';'), (0xFF1D, 0xFF1D, '='), (0xFF21, 0xFF3A, 'a'),
   (0xFF3F, 0xFF5B, '_'), (0xFF5D, 0xFF5E, '\x7d'), (0xFF61, 0xFF61, '.'), (0x107A5, 0x107A5, 'q'),
   (0x1CCD6, 0x1CCEF, 'a'), (0x1CCF0, 0x1CCF9, '0'), (0x1D400, 0x1D419, 'a'),
   (0x1D41A, 0x1D433, 'a'), (0x1D434, 0x1D44D, 'a'), (0x1D44E, 0x1D454, 'a'),
   (0x1D456, 0x1D467, 'i'), (0x1D468, 0x1D481, 'a'), (0x1D482, 0x1D49B, 'a'),
   (0x1D49C, 0x1D49C, 'a'), (0x1D49E, 0x1D49F, 'c'), (0x1D4A2, 0x1D4A2, 'g'),
   (0x1D4A5, 0x1D4A6, 'j'), (0x1D4A9, 0x1D4AC, 'n'), (0x1D4AE, 0x1D4B5, 's'),
   (0x1D4B6, 0x1D4B9, 'a'), (0x1D4BB, 0x1D4BB, 'f'), (0x1D4BD, 0x1D4C3, 'h'),
   (0x1D4C5, 0x1D4CF, 'p'), (0x1D4D0, 0x1D4E9, 'a'), (0x1D4EA, 0x1D503, 'a'),
   (0x1D504, 0x1D505, 'a'), (0x1D507, 0x1D50A, 'd'), (0x1D50D, 0x1D514, 'j'),
   (0x1D516, 0x1D51C, 's'), (0x1D51E, 0x1D537, 'a'), (0x1D538, 0x1D539, 'a'),
   (0x1D53B, 0x1D53E, 'd'), (0x1D540, 0x1D544, 'i'), (0x1D546, 0x1D546, 'o'),
   (0x1D54A, 0x1D550, 's'), (0x1D552, 0x1D56B, 'a'), (0x1D56C, 0x1D585, 'a'),
   (0x1D586, 0x1D59F, 'a'), (0x1D5A0, 0x1D5B9, 'a'), (0x1D5BA, 0x1D5D3, 'a'),
   (0x1D5D4, 0x1D5ED, 'a'), (0x1D5EE, 0x1D607, 'a'), (0x1D608, 0x1D621, 'a'),
   (0x1D622, 0x1D63B, 'a'), (0x1D63C, 0x1D655, 'a'), (0x1D656, 0x1D66F, 'a'),
   (0x1D670, 0x1D689, 'a'), (0x1D68A, 0x1D6A3, 'a'), (0x1D7CE, 0x1D7D7, '0'),
   (0x1D7D8, 0x1D7E1, '0'), (0x1D7E2, 0x1D7EB, '0'), (0x1D7EC, 0x1D7F5, '0'),
   (0x1D7F6, 0x1D7FF, '0'), (0x1F12B, 0x1F12B, 'c'), (0x1F12C, 0x1F12C, 'r'),
   (0x1F130, 0x1F149, 'a'), (0x1FBF0, 0x1FBF9, '0')]

/-- Code points that stand for other characters, some of them of ASCII or with another direction or
another place in a label: the first of a range, and what the code points from there on stand for. -/
def mixedForms : List (Nat × List String) :=
  [(0xBC, ["1⁄4", "1⁄2", "3⁄4"]), (0x130, ["i̇"]), (0x132, ["ij", "ij"]), (0x13F, ["l·", "l·"]),
   (0x149, ["ʼn"]), (0x1C4, ["dž", "dž", "dž", "lj", "lj", "lj", "nj", "nj", "nj"]),
   (0x1F1, ["dz", "dz", "dz"]), (0x345, ["\u03b9"]), (0xE33, ["\u0e4d\u0e32"]),
   (0xEB3, ["\u0ecd\u0eb2"]), (0x1E9A, ["aʾ"]), (0x1E9E, ["ss"]), (0x203C, ["!!"]),
   (0x20A8, ["rs"]), (0x2103, ["°c"]), (0x2109, ["°f"]), (0x2116, ["no"]),
   (0x2120, ["sm", "tel", "tm"]), (0x2135, ["\u05d0", "\u05d1", "\u05d2", "\u05d3"]),
   (0x213B, ["fax"]), (0xFF9E, ["\u3099", "\u309a"]),
   (0x2150, ["1⁄7", "1⁄9", "1⁄10", "1⁄3", "2⁄3", "1⁄5", "2⁄5", "3⁄5", "4⁄5", "1⁄6", "5⁄6", "1⁄8",
    "3⁄8", "5⁄8", "7⁄8", "1⁄"]), (0x2161, ["ii", "iii", "iv"]),
   (0x2165, ["vi", "vii", "viii", "ix"]), (0x216A, ["xi", "xii"]), (0x2171, ["ii", "iii", "iv"]),
   (0x2175, ["vi", "vii", "viii", "ix"]), (0x217A, ["xi", "xii"]), (0x2189, ["0⁄3"]),
   (0x2469, ["10", "11", "12", "13", "14", "15", "16", "17", "18", "19", "20", "(1)", "(2)", "(3)",
    "(4)", "(5)", "(6)", "(7)", "(8)", "(9)", "(10)", "(11)", "(12)", "(13)", "(14)", "(15)",
    "(16)", "(17)", "(18)", "(19)", "(20)"]),
   (0x249C, ["(a)", "(b)", "(c)", "(d)", "(e)", "(f)", "(g)", "(h)", "(i)", "(j)", "(k)", "(l)",
    "(m)", "(n)", "(o)", "(p)", "(q)", "(r)", "(s)", "(t)", "(u)", "(v)", "(w)", "(x)", "(y)",
    "(z)"]), (0x2A75, ["==", "==="]),
   (0x3200, ["(ᄀ)", "(ᄂ)", "(ᄃ)", "(ᄅ)", "(ᄆ)", "(ᄇ)", "(ᄉ)", "(ᄋ)", "(ᄌ)", "(ᄎ)", "(ᄏ)", "(ᄐ)",
    "(ᄑ)", "(ᄒ)", "(가)", "(나)", "(다)", "(라)", "(마)", "(바)", "(사)", "(아)", "(자)", "(차)", "(카)",
    "(타)", "(파)", "(하)", "(주)", "(오전)", "(오후)"]),
   (0x3220, ["(一)", "(二)", "(三)", "(四)", "(五)", "(六)", "(七)", "(八)", "(九)", "(十)", "(月)", "(火)",
    "(水)", "(木)", "(金)", "(土)", "(日)", "(株)", "(有)", "(社)", "(名)", "(特)", "(財)", "(祝)", "(労)",
    "(代)", "(呼)", "(学)", "(監)", "(企)", "(資)", "(協)", "(祭)", "(休)", "(自)", "(至)"]),
   (0x3250, ["pte", "21", "22", "23", "24", "25", "26", "27", "28", "29", "30", "31", "32", "33",
    "34", "35"]),
   (0x32B1, ["36", "37", "38", "39", "40", "41", "42", "43", "44", "45", "46", "47", "48", "49",
    "50", "1月", "2月", "3月", "4月", "5月", "6月", "7月", "8月", "9月", "10月", "11月", "12月", "hg", "erg",
    "ev", "ltd"]),
   (0x3358, ["0点", "1点", "2点", "3点", "4点", "5点", "6点", "7点", "8点", "9点", "10点", "11点", "12点", "13点",
    "14点", "15点", "16点", "17点", "18点", "19点", "20点", "21点", "22点", "23点", "24点", "hpa", "da", "au",
    "bar", "ov", "pc", "dm", "dm2", "dm3", "iu"]),
   (0x3380, ["pa", "na", "μa", "ma", "ka", "kb", "mb", "gb", "cal", "kcal", "pf", "nf", "μf", "μg",
    "mg", "kg", "hz", "khz", "mhz", "ghz", "thz", "μl", "ml", "dl", "kl", "fm", "nm", "μm", "mm",
    "cm", "km", "mm2", "cm2", "m2", "km2", "mm3", "cm3", "m3", "km3", "m∕s", "m∕s2", "pa", "kpa",
    "mpa", "gpa", "rad", "rad∕s", "rad∕s2", "ps", "ns", "μs", "ms", "pv", "nv", "μv", "mv", "kv",
    "mv", "pw", "nw", "μw", "mw", "kw", "mw", "kω", "mω"]), (0x33C3, ["bq", "cc", "cd", "c∕kg"]),
   (0x33C8, ["db", "gy", "ha", "hp", "in", "kk", "km", "kt", "lm", "ln", "log", "lx", "mb", "mil",
    "mol", "ph"]),
   (0x33D9, ["ppm", "pr", "sr", "sv", "wb", "v∕m", "a∕m", "1日", "2日", "3日", "4日", "5日", "6日", "7日",
    "8日", "9日", "10日", "11日", "12日", "13日", "14日", "15日", "16日", "17日", "18日", "19日", "20日", "21日",
    "22日", "23日", "24日", "25日", "26日", "27日", "28日", "29日", "30日", "31日", "gal"]),
   (0xFB00, ["ff", "fi", "fl", "ffi", "ffl", "st", "st"]),
   (0x1F101, ["0,", "1,", "2,", "3,", "4,", "5,", "6,", "7,", "8,", "9,"]),
   (0x1F110, ["(a)", "(b)", "(c)", "(d)", "(e)", "(f)", "(g)", "(h)", "(i)", "(j)", "(k)", "(l)",
    "(m)", "(n)", "(o)", "(p)", "(q)", "(r)", "(s)", "(t)", "(u)", "(v)", "(w)", "(x)", "(y)",
    "(z)", "〔s〕"]), (0x1F12D, ["cd", "wz"]), (0x1F14A, ["hv", "mv", "sd", "ss", "ppv", "wc"]),
   (0x1F16A, ["mc", "md", "mr"]), (0x1F190, ["dj"])]

/-- Ranges of code points outside of ASCII that stand for others and have no case. -/
def standInRanges : List (Nat × Nat) :=
  [(0xB5, 0xB5), (0xBC, 0xBE), (0x140, 0x140), (0x149, 0x149), (0x1C6, 0x1C6), (0x2B1, 0x2B6),
   (0x2E0, 0x2E4), (0x340, 0x341), (0x343, 0x345), (0x374, 0x374), (0x387, 0x387), (0x3D0, 0x3D6),
   (0x3F0, 0x3F2), (0x3F5, 0x3F5), (0x587, 0x587), (0x675, 0x678), (0x958, 0x95F), (0x9DC, 0x9DF),
   (0xA33, 0xA33), (0xA36, 0xA36), (0xA59, 0xA5B), (0xA5E, 0xA5E), (0xB5C, 0xB5D), (0xE33, 0xE33),
   (0xEB3, 0xEB3), (0xEDC, 0xEDD), (0xF0C, 0xF0C), (0xF43, 0xF43), (0xF4D, 0xF4D), (0xF52, 0xF52),
   (0xF57, 0xF57), (0xF5C, 0xF5C), (0xF69, 0xF69), (0xF73, 0xF73), (0xF75, 0xF79), (0xF81, 0xF81),
   (0xF93, 0xF93), (0xF9D, 0xF9D), (0xFA2, 0xFA2), (0xFA7, 0xFA7), (0xFAC, 0xFAC), (0xFB9, 0xFB9),
   (0x10FC, 0x10FC), (0x13F8, 0x13FD), (0x1C80, 0x1C88), (0x1D2D, 0x1D2D), (0x1D32, 0x1D32),
   (0x1D3D, 0x1D4C), (0x1D51, 0x1D6A), (0x1D78, 0x1D78), (0x1D9B, 0x1DBF), (0x1E9A, 0x1E9B),
   (0x1F71, 0x1F71), (0x1F73, 0x1F73), (0x1F75, 0x1F75), (0x1F77, 0x1F77), (0x1F79, 0x1F79),
   (0x1F7B, 0x1F7B), (0x1F7D, 0x1FA7), (0x1FB2, 0x1FB4), (0x1FB7, 0x1FC4), (0x1FC7, 0x1FC7),
   (0x1FD3, 0x1FD3), (0x1FE3, 0x1FE3), (0x1FF2, 0x1FF4), (0x1FF7, 0x1FF7), (0x2011, 0x2011),
   (0x2033, 0x2034), (0x2036, 0x2037), (0x2057, 0x2057), (0x207B, 0x2094), (0x2103, 0x2103),
   (0x2107, 0x2107), (0x2109, 0x210F), (0x2135, 0x2138), (0x213C, 0x2140), (0x2150, 0x215F),
   (0x2189, 0x2189), (0x222C, 0x222D), (0x222F, 0x2230), (0x2329, 0x232A), (0x2A0C, 0x2A0C),
   (0x2ADC, 0x2ADC), (0x2D6F, 0x2D6F), (0x2E9F, 0x2E9F), (0x2EF3, 0x2FD5), (0x3036, 0x3036),
   (0x3038, 0x303A), (0x309F, 0x309F), (0x30FF, 0x30FF), (0x3131, 0x318E), (0x3192, 0x319F),
   (0x3200, 0x3247), (0x3260, 0x327E), (0x3280, 0x33FE), (0xA69C, 0xA69D), (0xA770, 0xA770),
   (0xA7F8, 0xA7F9), (0xAB5C, 0xAB5F), (0xAB69, 0xAB69), (0xAB70, 0xABBF), (0xF900, 0xFA0D),
   (0xFA10, 0xFA10), (0xFA12, 0xFA12), (0xFA15, 0xFA1E), (0xFA20, 0xFA20), (0xFA22, 0xFA22),
   (0xFA25, 0xFA26), (0xFA2A, 0xFB1D), (0xFB1F, 0xFBB1), (0xFBD3, 0xFD3D), (0xFD50, 0xFDC7),
   (0xFDF0, 0xFDFC), (0xFE11, 0xFE18), (0xFE31, 0xFE44), (0xFE51, 0xFE71), (0xFE77, 0xFFEE),
   (0x10781, 0x107BA), (0x1D15E, 0x1D164), (0x1D1BB, 0x1D1C0), (0x1D6A4, 0x1D7CB),
   (0x1E030, 0x1E06D), (0x1EE00, 0x1EEBB), (0x1F12A, 0x1F12A), (0x1F200, 0x1F251),
   (0x2F800, 0x2FA1D)]

end KeyedRecords.Domain
