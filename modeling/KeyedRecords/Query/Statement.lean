import KeyedRecords.Text.Case

/-!
The statements of lookups. A key query finds the key of an object; a row query selects columns of a
table.
-/

namespace KeyedRecords

/-- The statement languages of object stores. -/
inductive Dialect where
  /-- Placeholders are question marks, and columns come back in upper case. -/
  | sql
  /-- Parameters are named, a dollar sign before each name. -/
  | cypher
  deriving DecidableEq

def Dialect.name : Dialect → String
  | sql => "sql"
  | cypher => "cypher"

def Dialect.ofName? (s : String) : Option Dialect := [sql, cypher].find? (·.name == s)

structure KeyQuery where
  scope : String
  keyColumn : String
  whereClause : String
  deriving DecidableEq

namespace KeyQuery

/-- The name under which the key comes back. -/
def resultColumn (q : KeyQuery) : Dialect → String
  | .sql => Text.upper q.keyColumn
  | .cypher => q.keyColumn

/-- In Cypher the statement asks for one key only. -/
def text (q : KeyQuery) (dialect : Dialect) : String :=
  let column := q.resultColumn dialect
  match dialect with
  | .sql => "SELECT " ++ column ++ " FROM " ++ q.scope ++ " WHERE " ++ q.whereClause ++ ";"
  | .cypher =>
    "MATCH (n:`" ++ q.scope ++ "`) WHERE " ++ q.whereClause ++ " RETURN n.`" ++ column ++
      "` AS `" ++ column ++ "` LIMIT 1"

end KeyQuery

structure RowQuery where
  table : String
  /-- None of them means all. -/
  columns : List String
  whereClause : String
  deriving DecidableEq

namespace RowQuery

def columnText (q : RowQuery) : String :=
  if q.columns.isEmpty then "*" else ",".intercalate q.columns

def text (q : RowQuery) : String :=
  "SELECT " ++ q.columnText ++ " FROM " ++ q.table ++ " WHERE " ++ q.whereClause

end RowQuery

end KeyedRecords
