/-!
Words of the language that are not free to be names. All other words are names wherever a name may
stand.
-/

namespace KeyedRecords.Sql

/-- Words that neither name anything nor begin a term. -/
def reservedWords : List String :=
  ["ADD", "ALTER", "AND", "AS", "AUTOINCREMENT", "BETWEEN", "CHECK", "COLLATE", "COMMIT",
    "CONSTRAINT", "CREATE", "DEFAULT", "DEFERRABLE", "DELETE", "DROP", "ELSE", "ESCAPE", "EXCEPT",
    "FOREIGN", "FROM", "GROUP", "HAVING", "IN", "INDEX", "INSERT", "INTERSECT", "INTO", "IS",
    "ISNULL", "JOIN", "LIMIT", "NOTHING", "NOTNULL", "ON", "OR", "ORDER", "PRIMARY", "REFERENCES",
    "RETURNING", "SELECT", "SET", "TABLE", "THEN", "TO", "TRANSACTION", "UNION", "UNIQUE", "UPDATE",
    "USING", "VALUES", "WHEN", "WHERE"]

/-- Words that name nothing and begin terms or statements. -/
def openingWords : List String := ["ALL", "CASE", "DISTINCT", "EXISTS", "NOT", "NULL"]

/-- Words that begin terms with brackets. -/
def bracketWords : List String := ["CAST", "EXISTS", "RAISE"]

/-- Words that stand for the time. -/
def clockWords : List String := ["CURRENT_DATE", "CURRENT_TIME", "CURRENT_TIMESTAMP"]

/-- Words that join tables, which may be names but no labels. -/
def joinWords : List String :=
  ["CROSS", "FULL", "INDEXED", "INNER", "LEFT", "NATURAL", "OUTER", "RIGHT"]

/-- Words between two terms, or after one. -/
def operatorWords : List String :=
  ["AND", "BETWEEN", "COLLATE", "GLOB", "IN", "IS", "ISNULL", "LIKE", "MATCH", "NOT", "NOTNULL",
    "OR", "REGEXP"]

/-- Words that begin what follows the selected columns or the conditions. -/
def clauseWords : List String :=
  ["EXCEPT", "GROUP", "HAVING", "INTERSECT", "LIMIT", "ORDER", "UNION", "WHERE"]

/-- Whether a word is in a list, in any case of its letters. -/
def isAmong (words : List String) (word : String) : Bool := words.contains word.toUpper

def isReserved : String → Bool := isAmong reservedWords

/-- Whether a word without quotes may be a name. -/
def isFree (word : String) : Bool := !isReserved word && !isAmong openingWords word

/-- Whether a word without quotes may be the label of a table that no other word announces. -/
def isTableLabel (word : String) : Bool := isFree word && !isAmong joinWords word

/-- Whether a word without quotes may be the label of a column that no other word announces. -/
def isColumnLabel (word : String) : Bool := isTableLabel word && !isAmong operatorWords word

end KeyedRecords.Sql
