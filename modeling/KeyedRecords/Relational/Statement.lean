import KeyedRecords.LookupError
import KeyedRecords.Relational.Cell
import KeyedRecords.Relational.Keyword
import KeyedRecords.Relational.Token

/-!
The part of SQL that lookups use: columns of one table, selected by terms that are equal. What is
beyond it is told apart from what no statement may be.
-/

namespace KeyedRecords.Sql

/-- The schema that all tables are in. -/
def schemaName : String := "main"

/-- A name with what stands before it, points in between. -/
structure Name where
  path : List String
  last : String
  deriving DecidableEq

def Name.text (n : Name) : String := ".".intercalate (n.path ++ [n.last])

inductive Term where
  /-- A column, and what the name stands for if there is no such column. -/
  | column (name : Name) (otherwise : Option Cell)
  | parameter
  | literal (cell : Cell)
  /-- The time at which the statement runs, in some form. -/
  | clock
  deriving DecidableEq

inductive Item where
  | all
  /-- All columns of a table. -/
  | allOf (table : String)
  /-- A term, as it is written, and the name that the result column is given, if one is. -/
  | term (t : Term) (text : String) (label : Option String)
  deriving DecidableEq

/-- Two terms that have to be equal. -/
structure Condition where
  left : Term
  right : Term
  deriving DecidableEq

/-- The table that rows come from, and the name that it is given in the statement, if one is. -/
structure Origin where
  table : Name
  label : Option String
  deriving DecidableEq

structure Select where
  items : List Item
  origin : Option Origin
  conditions : List Condition
  deriving DecidableEq

/-! ## Reading a statement -/

def unexpected {α : Type} : List Token → Except GrammarFault α
  | [] => .error .incomplete
  | t :: _ => .error (if t.kind = .unknown then .unrecognized t.text else .near t.text)

/-- Refuses tokens that may follow in statements beyond those of lookups, and those that may not. -/
def refuse {α : Type} (isBeyond : Token → Bool) (ts : List Token) : Except GrammarFault α :=
  if ts.head?.any isBeyond then .error .beyond else unexpected ts

/-- Whether a token takes a term further. -/
def isOperator (t : Token) : Bool :=
  match t.kind with
  | .symbol => !([",", ";", ")", ".", "~"].contains t.text)
  | .word => isAmong operatorWords t.text
  | _ => false

/-- Whether a token begins a clause, or ends the statement. -/
def isClause (t : Token) : Bool :=
  t.isSymbol ";" || t.kind == .word && isAmong clauseWords t.text

/-- Whether a term may begin with a token. -/
def beginsTerm (t : Token) : Bool :=
  match t.kind with
  | .symbol => ["(", "+", "-", "~"].contains t.text
  | .word => !isReserved t.text
  | .unknown => false
  | _ => true

def name : List Token → Except GrammarFault (String × List Token)
  | [] => unexpected []
  | t :: rest =>
    match t.kind with
    | .word => if isFree t.text then .ok (t.text, rest) else unexpected (t :: rest)
    | .bracketed | .quoted | .text => .ok (t.content, rest)
    | _ => unexpected (t :: rest)

/-- Up to `n` names with points before them. -/
def furtherNames : Nat → List Token → Except GrammarFault (List String × List Token)
  | n + 1, t :: rest => do
    if !t.isSymbol "." then return ([], t :: rest)
    let (first, rest) ← name rest
    let (others, rest) ← furtherNames n rest
    pure (first :: others, rest)
  | _, ts => .ok ([], ts)

/-- A name with points, of which `first` has been read. -/
def dotted (first : String) (count : Nat) (ts : List Token) :
    Except GrammarFault (Name × List Token) := do
  let (others, rest) ← furtherNames count ts
  let names := first :: others
  pure (⟨names.dropLast, names.getLast?.getD first⟩, rest)

/-- A column. The first name alone may stand for something else. -/
def column (first : String) (otherwise : Option Cell) (ts : List Token) :
    Except GrammarFault (Term × List Token) := do
  let (n, rest) ← dotted first 2 ts
  pure (.column n (if n.path.isEmpty then otherwise else none), rest)

/-- The number that a numeral without a sign denotes. -/
def number? (s : String) : Option Cell :=
  (Numeral.ofText? s).map fun n =>
    (if n.isWhole then Cell.integerOf? n.int else none).getD (.real n.real)

/-- What words without quotes stand for if nothing has them as a name. -/
def truth? (word : String) : Option Cell :=
  [("true", Cell.integer 1), ("false", .integer 0)].lookup word.toLower

/-- A term that begins with a word. -/
def wordTerm (word : String) (rest : List Token) : Except GrammarFault (Term × List Token) :=
  if isAmong ["NULL"] word then .ok (.literal .null, rest)
  else if isAmong bracketWords word then refuse (·.isSymbol "(") rest
  else if isAmong ["CASE", "NOT"] word then refuse beginsTerm rest
  else if isAmong clockWords word then
    if rest.head?.any (·.isSymbol ".") then unexpected rest else .ok (.clock, rest)
  else column word (truth? word) rest

def term : List Token → Except GrammarFault (Term × List Token)
  | [] => unexpected []
  | t :: rest =>
    match t.kind with
    | .word =>
      if isReserved t.text || isAmong ["ALL", "DISTINCT"] t.text then unexpected (t :: rest)
      else wordTerm t.text rest
    | .bracketed => column t.content none rest
    | .quoted => column t.content (some (.text t.content)) rest
    | .text =>
      if rest.head?.any (·.isSymbol ".") then column t.content none rest
      else .ok (.literal (.text t.content), rest)
    | .number =>
      match number? t.text with
      | some cell => .ok (.literal cell, rest)
      | none => .error .beyond
    | .parameter => .ok (.parameter, rest)
    | .other => .error .beyond
    | .symbol => refuse beginsTerm (t :: rest)
    | .unknown => unexpected (t :: rest)

/-- A label, with or without the word that announces one. Without it only some words are labels. -/
def label (isLabel : String → Bool) : List Token → Except GrammarFault (Option String × List Token)
  | [] => .ok (none, [])
  | t :: rest =>
    match t.kind with
    | .word =>
      if t.isWord "AS" then do
        let (label, rest) ← name rest
        pure (some label, rest)
      else .ok (if isLabel t.text then (some t.text, rest) else (none, t :: rest))
    | .bracketed | .quoted | .text => .ok (some t.content, rest)
    | _ => .ok (none, t :: rest)

def termItem (ts : List Token) : Except GrammarFault (Item × List Token) := do
  let (t, rest) ← term ts
  if rest.head?.any isOperator || t = .clock then throw .beyond
  let (label, rest) ← label isColumnLabel rest
  pure (.term t ((ts.head?.map (·.text)).getD "") label, rest)

def item : List Token → Except GrammarFault (Item × List Token)
  | t :: dot :: star :: rest =>
    if t.isSymbol "*" then .ok (.all, dot :: star :: rest)
    else
      match name [t] with
      | .ok (table, _) =>
        if dot.isSymbol "." && star.isSymbol "*" then .ok (.allOf table, rest)
        else termItem (t :: dot :: star :: rest)
      | .error _ => termItem (t :: dot :: star :: rest)
  | t :: rest => if t.isSymbol "*" then .ok (.all, rest) else termItem (t :: rest)
  | [] => unexpected []

/-- The selected columns; there are at most as many as tokens. -/
def items : Nat → List Token → Except GrammarFault (List Item × List Token)
  | 0, ts => unexpected ts
  | n + 1, ts => do
    let (first, rest) ← item ts
    match rest with
    | t :: rest =>
      if !t.isSymbol "," then return ([first], t :: rest)
      let (others, rest) ← items n rest
      pure (first :: others, rest)
    | [] => pure ([first], [])

def condition (ts : List Token) : Except GrammarFault (Condition × List Token) := do
  let (left, rest) ← term ts
  match rest with
  | t :: rest =>
    if !(t.isSymbol "=" || t.isSymbol "==") then
      return ← refuse (fun t => isOperator t || isClause t) (t :: rest)
    let (right, rest) ← term rest
    pure (⟨left, right⟩, rest)
  | [] => throw .beyond

/-- Conditions joined by AND; there are at most as many as tokens. -/
def conditions : Nat → List Token → Except GrammarFault (List Condition × List Token)
  | 0, ts => unexpected ts
  | n + 1, ts => do
    let (first, rest) ← condition ts
    match rest with
    | t :: rest =>
      if !t.isWord "AND" then return ([first], t :: rest)
      let (others, rest) ← conditions n rest
      pure (first :: others, rest)
    | [] => pure ([first], [])

/-- More conditions than this are no statement. -/
def maxConditions : Nat := 999

/-- Whether a token begins what may follow a table: other tables or a clause. -/
def followsTable (t : Token) : Bool :=
  match t.kind with
  | .symbol => [",", "(", ";"].contains t.text
  | .word => isAmong (["JOIN", "NOT", "ON", "USING"] ++ joinWords ++ clauseWords) t.text
  | _ => false

/-- Nothing may come after a statement but semicolons. -/
def finish (isBeyond : Token → Bool) (ts : List Token) : Except GrammarFault Unit :=
  if ts.all (·.isSymbol ";") then .ok () else refuse isBeyond ts

/-- The conditions, if there are any, up to the end. -/
def whereClause (ts : List Token) : Except GrammarFault (List Condition) := do
  match ts with
  | t :: rest =>
    if t.isWord "WHERE" then
      let (found, rest) ← conditions rest.length rest
      if maxConditions < found.length then throw .tooDeep
      finish (fun t => isOperator t || isClause t) rest
      pure found
    else
      finish followsTable ts
      pure []
  | [] => pure []

def origin (ts : List Token) : Except GrammarFault (Origin × List Token) := do
  if ts.head?.any (·.isSymbol "(") then throw .beyond
  let (first, rest) ← name ts
  let (table, rest) ← dotted first 1 rest
  let (label, rest) ← label isTableLabel rest
  pure (⟨table, label⟩, rest)

/-- The statement that a text is. Whether equal rows are shown once makes no difference, for one row
is all that is fetched. -/
def Select.parse (s : String) : Except GrammarFault Select := do
  match tokens s.toList with
  | [] => throw .beyond
  | t :: rest =>
    if !t.isWord "SELECT" then throw .beyond
    let rest := match rest with
      | t :: rest => if t.isWord "ALL" || t.isWord "DISTINCT" then rest else t :: rest
      | [] => []
    let (found, rest) ← Sql.items rest.length rest
    match rest with
    | t :: rest =>
      if t.isWord "FROM" then
        let (origin, rest) ← Sql.origin rest
        pure ⟨found, some origin, ← whereClause rest⟩
      else
        finish isClause (t :: rest)
        pure ⟨found, none, []⟩
    | [] => pure ⟨found, none, []⟩

end KeyedRecords.Sql
