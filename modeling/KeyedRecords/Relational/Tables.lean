import KeyedRecords.Relational.Catalogue
import KeyedRecords.Relational.Location

/-!
A small relational database: tables that are inserted in and dropped. Its pool of connections can be
closed.
-/

namespace KeyedRecords

structure Tables where
  tables : List Table
  catalogue : Table
  isClosed : Bool := false

namespace Tables

/-- A new database with some tables. -/
def ofList (ts : List Table) : Tables := { tables := ts, catalogue := Catalogue.ofTables ts }

/-- The table of a name, before which nothing stands. -/
def named? (d : Tables) (name : String) : Option Table :=
  d.tables.find? fun t => Sql.sameName t.name name

/-- The table of a name, before which that of the schema may stand, or the catalogue. -/
def find? (d : Tables) (n : Sql.Name) : Option Table :=
  (if n.path.all (Sql.sameName Sql.schemaName) then d.named? n.last else none) <|>
    Catalogue.find? d.catalogue n

/-- Whether a connection can be had. -/
def ping (d : Tables) : Except LookupError Unit :=
  if d.isClosed then .error (.database .poolClosed) else .ok ()

/-- Inserts a row in a table. There is no statement that inserts a row without cells. -/
def insertRow (d : Tables) (name : String) (row : List Cell) : Except DatabaseFault Tables := do
  if row.isEmpty then throw (.grammar (.near ")"))
  match d.named? name with
  | none =>
    throw ((Catalogue.ownName? name).elim (.noSuchTable name) .fixedRows)
  | some t =>
    match t.insertRow row with
    | .ok changed =>
      pure { d with tables := d.tables.map fun u => if u.name = t.name then changed else u }
    | .error (.wrongWidth columns cells) => throw (.row name (.wrongWidth columns cells))
    | .error fault => throw (.row t.name fault)

/-- Inserts rows one by one, up to the first one that cannot be inserted. -/
def insertRows (d : Tables) (name : String) :
    List (List Cell) → Except LookupError Unit × Tables
  | [] => (.ok (), d)
  | row :: rest =>
    match d.insertRow name row with
    | .ok d => d.insertRows name rest
    | .error fault => (.error (.database fault), d)

def insert (d : Tables) (name : String) (rows : List (List Cell)) :
    Except LookupError Unit × Tables :=
  match d.ping with
  | .ok () => d.insertRows name rows
  | .error e => (.error e, d)

def drop (d : Tables) (name : String) : Except LookupError Tables := do
  d.ping
  match d.named? name with
  | none => throw (.database ((Catalogue.ownName? name).elim (.noSuchTable name) .fixedTable))
  | some t =>
    pure { d with
      tables := d.tables.filter fun u => u.name ≠ t.name
      catalogue := Catalogue.erase d.catalogue t.name }

def close (d : Tables) : Tables := { d with isClosed := true }

/-- Opens an empty database at a URL. -/
def connect (url : String) : Except LookupError Tables :=
  match Location.parse url >>= Location.check with
  | .ok () => .ok (.ofList [])
  | .error fault => .error (.store (.connect url fault))

end Tables

end KeyedRecords
