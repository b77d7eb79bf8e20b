import KeyedRecords.Graph.Bolt
import KeyedRecords.Graph.ZoneTable
import KeyedRecords.Text.Numeral

/-!
The clocks of some time zones. The local clock of a zone runs at an offset from universal time and
is set to another offset now and then.
-/

namespace KeyedRecords

structure Zone where
  /-- Seconds ahead of universal time before the first change. -/
  first : Int
  /-- In the order of their instants. -/
  changes : List ZoneTable.Change
  deriving DecidableEq

namespace Zone

def fixed (offset : Int) : Zone := ⟨offset, []⟩

/-- An hour of summer time, from the last Sunday of March to that of October, each at 01:00
universal time. -/
def europeanYear (winterOffset year : Int) : List ZoneTable.Change :=
  [(Date.lastSunday year 3 * 86400 + 3600, winterOffset + 3600),
    (Date.lastSunday year 10 * 86400 + 3600, winterOffset)]

/-- The European rule for as many years as it is laid down for; from 2100 on winter time stays. -/
def europeanChanges (winterOffset : Int) : List ZoneTable.Change :=
  (List.range 104).flatMap fun n => europeanYear winterOffset (n + 1996 : Nat)

def paris : Zone := ⟨561, ZoneTable.paris ++ europeanChanges 3600⟩

def kolkata : Zone := ⟨21208, ZoneTable.kolkata⟩

/-- Zones that are named for their distance from Greenwich. Their sign counts to the west. -/
def byDistance : List (String × Int) :=
  ((List.range 15).map fun n => ("Etc/GMT-" ++ Text.decimal n, 3600 * (n : Int))) ++
    (List.range 13).map fun n => ("Etc/GMT+" ++ Text.decimal n, -3600 * (n : Int))

def universalNames : List String :=
  ["UTC", "UCT", "GMT", "GMT0", "GMT+0", "GMT-0", "Greenwich", "Universal", "Zulu", "Etc/UTC",
    "Etc/UCT", "Etc/GMT", "Etc/GMT0", "Etc/Greenwich", "Etc/Universal", "Etc/Zulu"]

def ofName? (name : String) : Option Zone :=
  match name with
  | "Europe/Paris" => some paris
  | "Asia/Kolkata" | "Asia/Calcutta" => some kolkata
  | _ =>
    if universalNames.contains name then some (fixed 0)
    else (byDistance.lookup name).map fixed

/-- The offset at an instant. -/
def offsetAt (z : Zone) (second : Int) : Int :=
  z.changes.foldl (fun offset change => if change.1 ≤ second then change.2 else offset) z.first

/-- All offsets of a zone, the greatest first. -/
def offsets (z : Zone) : List Int :=
  (z.first :: z.changes.map (·.2)).eraseDups.mergeSort fun a b => b ≤ a

/-- The earliest instant at which the local clock shows the given reading. What the clock skips when
it is put forward shows at no instant. -/
def instant? (z : Zone) (localSecond : Int) : Option Int :=
  (z.offsets.map (localSecond - ·)).find? fun second => z.offsetAt second == localSecond - second

end Zone

/-- The clocks of the zones that are listed here. A clock that shows a reading more than once counts
from the earliest instant. -/
def ZoneClocks.listed : ZoneClocks where
  instant? localSecond nanos zone := do
    let reading ← Bolt.instant? localSecond nanos
    let z ← Zone.ofName? zone
    reading.withSeconds? (← z.instant? localSecond)

end KeyedRecords
