import KeyedRecords.ConnectFault
import KeyedRecords.Graph.Domain
import KeyedRecords.Number.Power
import KeyedRecords.Text.Percent

/-!
Hosts of addresses: numbers of the fourth and the sixth version of the internet protocol, domains,
and hosts of schemes that say nothing about them.
-/

namespace KeyedRecords.Host

/-! ## Numbers of the fourth version -/

/-- Digits of a base up to sixteen. No digits stand for zero. -/
def digits? (base : Nat) (cs : List Char) : Option Nat :=
  cs.foldlM (fun n c => do
    let digit ← Text.hexDigit? c
    if digit < base then some (base * n + digit) else none) 0

/-- A number in base ten, in base eight after a zero, or in base sixteen after a zero and an x. -/
def number? : List Char → Option Nat
  | [] => none
  | '0' :: 'x' :: rest | '0' :: 'X' :: rest => digits? 16 rest
  | '0' :: c :: rest => digits? 8 (c :: rest)
  | cs => digits? 10 cs

/-- The parts between points. A point at the end makes no difference. -/
def parts (domain : String) : List (List Char) :=
  let parts := (domain.splitOn ".").map String.toList
  match parts.reverse with
  | [] :: front => front.reverse
  | _ => parts

/-- Whether a domain can only be a number of the fourth version. -/
def endsInNumber (domain : String) : Bool :=
  match (parts domain).getLast? with
  | some last => !last.isEmpty && last.all Text.isDigit || (number? last).isSome
  | none => false

/-- One to four numbers, the last of which fills all the bytes that are left. -/
def isIPv4 (domain : String) : Bool :=
  match ((parts domain).mapM number?).map List.reverse with
  | some (last :: front) =>
    front.length ≤ 3 && front.all (· < 256) && last < twoPow (8 * (4 - front.length))
  | _ => false

/-! ## Numbers of the sixth version -/

def isGroup (s : String) : Bool :=
  0 < s.length && s.length ≤ 4 && s.toList.all fun c => (Text.hexDigit? c).isSome

/-- A byte in base ten without zeros in front. -/
def isByte (s : String) : Bool :=
  (Text.numeral? s.toList).any fun n => n < 256 && Text.decimal n == s

/-- Four bytes with points between them. -/
def isBytes (s : String) : Bool := (s.splitOn ".").length == 4 && (s.splitOn ".").all isByte

/-- How many groups there are, `none` if one is none. Four bytes at the end count as two groups. -/
def groupCount? (bytesAtEnd : Bool) : List String → Option Nat
  | [] => some 0
  | [last] =>
    if isGroup last then some 1
    else if bytesAtEnd && isBytes last then some 2
    else none
  | group :: rest => if isGroup group then (groupCount? bytesAtEnd rest).map (· + 1) else none

def groups (s : String) : List String := if s.isEmpty then [] else s.splitOn ":"

/-- Eight groups, or fewer where two colons stand for as many zeros as are missing. -/
def isIPv6 (s : String) : Bool :=
  match s.splitOn "::" with
  | [whole] => groupCount? true (groups whole) == some 8
  | [front, back] =>
    match groupCount? false (groups front), groupCount? true (groups back) with
    | some m, some n => m + n ≤ 7
    | _, _ => false
  | _ => false

/-- What stands in the brackets that a host begins with, `none` without brackets. -/
def bracketed? : List Char → Option (Except AddressFault Unit)
  | '[' :: rest =>
    if rest.getLast? = some ']' ∧ isIPv6 (String.ofList rest.dropLast) then some (.ok ())
    else some (.error .badIPv6)
  | _ => none

/-! ## Hosts -/

def checkDomain (cs : List Char) : Except AddressFault Unit :=
  match (Utf8.decode (Percent.decode cs)).toOption.bind Domain.ofText? with
  | none => .error .badDomain
  | some domain =>
    if domain.isEmpty then .error .emptyHost
    else if endsInNumber domain && !isIPv4 domain then .error .badIPv4
    else .ok ()

/-- Characters that not even a host of an unknown scheme has. -/
def isExcluded (c : Char) : Bool :=
  [0x00, 0x09, 0x0A, 0x0D, 0x20].contains c.toNat ||
    ['#', '/', ':', '<', '>', '?', '@', '[', '\\', ']', '^', '|'].contains c

/-- Checks a host that is not empty. The scheme tells whether it has to be a domain. -/
def check (isDomain : Bool) (cs : List Char) : Except AddressFault Unit :=
  match bracketed? cs with
  | some outcome => outcome
  | none =>
    if isDomain then checkDomain cs
    else if cs.any isExcluded then .error .badCharacter
    else .ok ()

end KeyedRecords.Host
