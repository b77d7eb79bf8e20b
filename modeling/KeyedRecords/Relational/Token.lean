/-!
The tokens that statements and declarations are made of.
-/

namespace KeyedRecords.Sql

/-- Names are the same in any case of their ASCII letters. -/
def sameName (a b : String) : Bool := a.toLower == b.toLower

inductive TokenKind where
  /-- A name without quotes, or a word of the language. -/
  | word
  /-- A name in brackets or backquotes. -/
  | bracketed
  /-- A name in double quotes. -/
  | quoted
  /-- A text in single quotes. -/
  | text
  | number
  | parameter
  | symbol
  /-- Bytes, and parameters with a number or a name of their own. -/
  | other
  /-- Characters that begin no token, and what is cut short. -/
  | unknown
  deriving DecidableEq

structure Token where
  kind : TokenKind
  /-- The token as it is written. -/
  text : String
  deriving DecidableEq

/-! ## Characters -/

def isSpace (c : Char) : Bool :=
  c == ' ' || c == '\t' || c == '\n' || c == '\x0c' || c == '\r'

/-- All characters outside of ASCII may stand in a word. -/
def isWordStart (c : Char) : Bool := c.isAlpha || c == '_' || 0x80 ≤ c.toNat

def isWordChar (c : Char) : Bool := isWordStart c || c.isDigit || c == '$'

def isSymbolChar (c : Char) : Bool :=
  [',', '=', '*', ';', '(', ')', '.', '<', '>', '+', '-', '/', '%', '&', '|', '~'].contains c

/-! ## Where a token ends -/

/-- The number of characters up to the quote that closes, which is not written twice. -/
def closing? (quote : Char) : List Char → Option Nat
  | [] => none
  | [a] => if a == quote then some 1 else none
  | a :: b :: rest =>
    if a != quote then (closing? quote (b :: rest)).map (· + 1)
    else if b == quote then (closing? quote rest).map (· + 2)
    else some 1

/-- What begins with a quote; without an end it takes all the rest. -/
def upTo (kind : TokenKind) (rest : List Char) (length : Option Nat) : TokenKind × Nat :=
  match length with
  | some n => (kind, n)
  | none => (.unknown, rest.length)

def digitCount (cs : List Char) : Nat := (cs.takeWhile Char.isDigit).length

/-- The number of characters of an exponent, zero if there is none. -/
def exponentLength : List Char → Nat
  | e :: c :: rest =>
    if e.toLower != 'e' then 0
    else if c.isDigit then 2 + digitCount rest
    else if (c == '+' || c == '-') && 0 < digitCount rest then 2 + digitCount rest
    else 0
  | _ => 0

/-- A number has digits, a point, digits and an exponent. It may not run into a word. -/
def numberToken (cs : List Char) : TokenKind × Nat :=
  let whole := digitCount cs
  let fraction := match cs.drop whole with
    | '.' :: rest => 1 + digitCount rest
    | _ => 0
  let length := whole + fraction
  let length := length + exponentLength (cs.drop length)
  let tail := ((cs.drop length).takeWhile isWordChar).length
  (if tail = 0 then .number else .unknown, length + tail)

/-- What follows the letter that announces bytes: pairs of digits in single quotes. -/
def bytesToken (rest : List Char) : TokenKind × Nat :=
  let digits := ((rest.drop 1).takeWhile Char.isHexDigit).length
  let length := ((rest.drop 1).takeWhile (· != '\'')).length
  (if digits = length && digits % 2 = 0 && length + 1 < rest.length then .other else .unknown,
    min (length + 2) rest.length)

/-- The kind of the token that begins with a character, and how many characters follow in it. -/
def scan (c : Char) (rest : List Char) : TokenKind × Nat :=
  let wordLength := (rest.takeWhile isWordChar).length
  let startsNumber := c.isDigit || c == '.' && 0 < digitCount rest
  if c.toLower == 'x' && rest.head? == some '\'' then bytesToken rest
  else if isWordStart c then (.word, wordLength)
  else if startsNumber then
    let (kind, length) := numberToken (c :: rest)
    (kind, length - 1)
  else if c == '\'' then upTo .text rest (closing? c rest)
  else if c == '"' then upTo .quoted rest (closing? c rest)
  else if c == '\x60' then upTo .bracketed rest (closing? c rest)
  else if c == '[' then upTo .bracketed rest ((rest.findIdx? (· == ']')).map (· + 1))
  else if c == '?' then
    let digits := digitCount rest
    (if digits = 0 then .parameter else .other, digits)
  else if c == '$' || c == '@' || c == '#' || c == ':' then
    (if wordLength = 0 then .unknown else .other, wordLength)
  else if c == '=' && rest.head? == some '=' then (.symbol, 1)
  else if c == '!' && rest.head? == some '=' then (.symbol, 1)
  else (if isSymbolChar c then .symbol else .unknown, 0)

/-- The tokens of a text. A mark of the order of bytes counts as a space in front of a token. -/
def tokens : List Char → List Token
  | [] => []
  | c :: rest =>
    if isSpace c || c == '\ufeff' then tokens rest
    else
      let found := scan c rest
      ⟨found.1, String.ofList (c :: rest.take found.2)⟩ :: tokens (rest.drop found.2)
termination_by cs => cs.length
decreasing_by
  · exact Nat.lt_succ_self _
  · simp only [List.length_cons, List.length_drop]
    omega

namespace Token

/-- Whether a token is a symbol. -/
def isSymbol (t : Token) (s : String) : Bool := t.kind == .symbol && t.text == s

/-- Whether a token is a word without quotes, in any case of its letters. -/
def isWord (t : Token) (word : String) : Bool := t.kind == .word && sameName t.text word

/-- Writes a quote once that is written twice. -/
def single (quote : Char) : List Char → List Char
  | a :: b :: rest =>
    if a == quote && b == quote then a :: single quote rest else a :: single quote (b :: rest)
  | cs => cs

/-- The name or text that a token denotes. -/
def content (t : Token) : String :=
  match t.kind, t.text.toList with
  | .bracketed, c :: rest | .quoted, c :: rest | .text, c :: rest =>
    String.ofList (if c == '[' then rest.dropLast else single c rest.dropLast)
  | _, _ => t.text

end Token

end KeyedRecords.Sql
