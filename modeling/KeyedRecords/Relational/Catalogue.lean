import KeyedRecords.Relational.Table

/-!
The catalogue of a database: a table that tells of its tables and of the columns without equal cells
in them. Nobody but the database itself changes it.
-/

namespace KeyedRecords.Catalogue

/-- The names of the catalogue, its own one first. -/
def names : List String := ["sqlite_master", "sqlite_schema"]

/-- The names of the catalogue of what is in no file, its own one first. There is nothing in it. -/
def temporaryNames : List String := ["sqlite_temp_master", "sqlite_temp_schema"]

def temporarySchemaName : String := "temp"

def columns : List Column :=
  [⟨"type", "TEXT"⟩, ⟨"name", "TEXT"⟩, ⟨"tbl_name", "TEXT"⟩, ⟨"rootpage", "INT"⟩, ⟨"sql", "TEXT"⟩]

/-- The own name of the catalogue that goes by a name. -/
def ownName? (name : String) : Option String :=
  [names, temporaryNames].findSome? fun known =>
    if known.any (Sql.sameName name) then known.head? else none

/-- The statement that a table was made by. -/
def creation (t : Table) : String :=
  let column (c : Column) : String := "\"" ++ c.name ++ "\" " ++ c.declared
  "CREATE TABLE \"" ++ t.name ++ "\" (" ++ ", ".intercalate (t.columns.map column) ++ ")"

/-- What the catalogue tells of a table: the kind, the name, the table, and the statement if there
is one. -/
def entries (t : Table) : List (String × String × String × Option String) :=
  let count := (t.columns.filter (·.declaration.distinct.isSome)).length
  let index (i : Nat) : String := "sqlite_autoindex_" ++ t.name ++ "_" ++ Text.decimal (i + 1)
  ("table", t.name, t.name, some (creation t)) ::
    (List.range count).map fun i => ("index", index i, t.name, none)

/-- The catalogue of a new database with some tables. Each entry takes the next page, the first of
which is that of the catalogue itself. -/
def ofTables (ts : List Table) : Table where
  name := names.headD ""
  columns := columns
  rows := (ts.flatMap entries).zipIdx.map fun ((kind, name, table, statement), i) =>
    ⟨.ofNat (i + 1), [.text kind, .text name, .text table, .integer (.ofNat (i + 2)),
      (statement.map Cell.text).getD .null]⟩

def temporary : Table := ⟨temporaryNames.headD "", columns, []⟩

/-- The catalogue without a table. -/
def erase (catalogue : Table) (table : String) : Table :=
  { catalogue with rows := catalogue.rows.filter fun r => r.cell 2 ≠ .text table }

/-- The catalogue that a name stands for, which the name of a schema may come before. It goes by the
name that it is called. -/
def find? (catalogue : Table) (n : Sql.Name) : Option Table :=
  let isTemporary := n.path.any (Sql.sameName temporarySchemaName)
  let isOf (known : List String) : Bool := known.any (Sql.sameName n.last)
  let found :=
    if n.path.all (Sql.sameName Sql.schemaName) && isOf names then some catalogue
    else if isOf temporaryNames && (n.path.isEmpty || isTemporary) || isOf names && isTemporary then
      some temporary
    else none
  found.map fun t => { t with name := n.last }

end KeyedRecords.Catalogue
