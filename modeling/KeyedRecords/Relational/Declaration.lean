import KeyedRecords.Relational.Token

/-!
What is declared of a column besides its name: the words of a type, possibly none, and constraints.
-/

namespace KeyedRecords

/-- When two texts of a column are the same. -/
inductive Collation where
  | binary
  /-- Letters of ASCII are the same in any case. -/
  | noCase
  /-- Spaces at the end make no difference. -/
  | trimmed
  deriving DecidableEq

namespace Collation

def ofName? (name : String) : Option Collation :=
  [("binary", binary), ("nocase", noCase), ("rtrim", trimmed)].lookup name.toLower

/-- What counts of a text: first a text, then a number. Where the case of letters makes no
difference, what follows a zero counts by its length alone. -/
def key : Collation → String → String × Nat
  | binary, s => (s, 0)
  | noCase, s => (String.ofList (s.toLower.toList.takeWhile (· != '\x00')), s.utf8ByteSize)
  | trimmed, s => (String.ofList (s.toList.reverse.dropWhile (· == ' ')).reverse, 0)

def same (c : Collation) (s t : String) : Bool := c.key s == c.key t

/-- Whether a text comes before another, or is the same. -/
def le (c : Collation) (s t : String) : Bool :=
  let (a, b) := (c.key s, c.key t)
  a.1 < b.1 || a.1 == b.1 && a.2 ≤ b.2

end Collation

/-- What becomes of a row that a constraint does not allow. -/
inductive Resolution where
  | refuse
  | leaveOut
  /-- The row takes the place of those that it repeats. -/
  | replace
  deriving DecidableEq

structure Declaration where
  type : String
  collation : Collation
  /-- Whether the column holds the number of the row. -/
  isRowNumber : Bool
  /-- Whether no cell may be empty. -/
  required : Option Resolution
  /-- Whether the column is the key of the table. -/
  key : Option Resolution
  /-- Whether no two cells may be equal, besides those of a key. -/
  unique : Option Resolution
  /-- Whether the column is ordered from its greatest cell to its least. -/
  isDescending : Bool
  deriving DecidableEq

namespace Declaration

/-! ## The words of the type -/

def startsConstraint (t : Sql.Token) : Bool :=
  t.kind == .word &&
    ["as", "check", "collate", "constraint", "default", "deferrable", "generated", "not", "null",
      "primary", "references", "unique"].contains t.text.toLower

def isName (t : Sql.Token) : Bool := [.word, .quoted, .bracketed, .text].contains t.kind

/-- Tokens up to a closing bracket, which is kept. -/
def bracketed : List Sql.Token → List String
  | [] => []
  | t :: rest => t.text :: if t.isSymbol ")" then [] else bracketed rest

/-- The words of the type. What stands in brackets belongs to it if it follows them directly. -/
def typeWords : List Sql.Token → List String
  | [] => []
  | t :: rest =>
    if startsConstraint t then []
    else if isName t then t.text :: typeWords rest
    else [String.join (bracketed (t :: rest))]

/-! ## Constraints -/

/-- The tokens that stand in no brackets, `depth` of which are open. -/
def outsideBrackets (depth : Nat) : List Sql.Token → List Sql.Token
  | [] => []
  | t :: rest =>
    if t.isSymbol "(" then outsideBrackets (depth + 1) rest
    else if t.isSymbol ")" then outsideBrackets (depth - 1) rest
    else if depth = 0 then t :: outsideBrackets depth rest
    else outsideBrackets depth rest

/-- What comes after some words, wherever these stand. -/
def afterEach (words : List String) : List Sql.Token → List (List Sql.Token)
  | [] => []
  | t :: rest =>
    let others := afterEach words rest
    if words.length ≤ rest.length + 1 && (words.zip (t :: rest)).all fun (w, u) => u.isWord w then
      (t :: rest).drop words.length :: others
    else
      others

/-- The last collation that is named. -/
def collationOf (ts : List Sql.Token) : Collation :=
  (((afterEach ["COLLATE"] ts).filterMap List.head?).filterMap fun t =>
    Collation.ofName? t.content).getLast?.getD .binary

/-- What is said after a constraint, behind the direction of a key, about rows that it does not
allow. -/
def resolution : List Sql.Token → Resolution
  | t :: rest =>
    if t.isWord "ASC" || t.isWord "DESC" then resolution rest
    else
      match (afterEach ["ON", "CONFLICT"] ((t :: rest).take 3)).filterMap List.head? with
      | [how] =>
        if how.isWord "IGNORE" then .leaveOut
        else if how.isWord "REPLACE" then .replace
        else .refuse
      | _ => .refuse
  | [] => .refuse

/-- The resolution that is asked for among some, if there are any. -/
def joint : List Resolution → Option Resolution
  | [] => none
  | found => some ((found.find? (· ≠ .refuse)).getD .refuse)

/-- What is declared. If a key is also called unique, the constraint that stands first tells the
order. -/
def parse (declared : String) : Declaration :=
  let tokens := Sql.tokens declared.toList
  let outside := outsideBrackets 0 tokens
  let resolutions (words : List String) := (afterEach words outside).map resolution
  let type := " ".intercalate (typeWords tokens)
  let key := joint (resolutions ["PRIMARY", "KEY"])
  let afterDescending := afterEach ["PRIMARY", "KEY", "DESC"] outside
  { type
    collation := collationOf outside
    isRowNumber := Sql.sameName type "INTEGER" && key.isSome && afterDescending.isEmpty
    required := (resolutions ["NOT", "NULL"]).getLast?
    key
    unique := joint (resolutions ["UNIQUE"])
    isDescending := afterDescending.any fun rest =>
      (afterEach ["UNIQUE"] outside).all fun other => other.length < rest.length }

/-- Whether no two cells may be equal, for whichever reason, besides the numbers of the rows. -/
def distinct (d : Declaration) : Option Resolution :=
  joint ((if d.isRowNumber then [] else d.key.toList) ++ d.unique.toList)

end Declaration

end KeyedRecords
