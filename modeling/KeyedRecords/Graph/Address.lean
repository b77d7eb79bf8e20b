import KeyedRecords.Graph.Host
import KeyedRecords.Text.Blank

/-!
Addresses of servers: a scheme, and a host that may stand between a user and a port.
-/

namespace KeyedRecords

structure Address where
  /-- In lower case. -/
  scheme : String
  /-- The host as it is written, if the address has one. -/
  host : Option String
  deriving DecidableEq

namespace Address

/-- What a scheme says about the rest of an address. -/
inductive Form where
  /-- A host is needed, with as many slashes before it as one likes. -/
  | web
  | file
  /-- A host follows two slashes. -/
  | other
  deriving DecidableEq

def formOf (scheme : String) : Form :=
  if ["http", "https", "ws", "wss", "ftp"].contains scheme then .web
  else if scheme = "file" then .file
  else .other

def isSchemeChar (c : Char) : Bool := c.isAlphanum || c == '+' || c == '-' || c == '.'

/-- A scheme and what follows its colon. -/
def splitScheme? (cs : List Char) : Option (String × List Char) :=
  let scheme := cs.takeWhile isSchemeChar
  match cs.dropWhile isSchemeChar with
  | ':' :: rest =>
    if scheme.head?.any Char.isAlpha then some (String.ofList (scheme.map Char.toLower), rest)
    else none
  | _ => none

/-- A slash; in addresses of known forms a backslash is one too. -/
def isSlash (form : Form) (c : Char) : Bool := c == '/' || (c == '\\' && form != .other)

/-- Where user, host and port are over. -/
def isEnd (form : Form) (c : Char) : Bool := isSlash form c || c == '?' || c == '#'

/-- What stands before the last at sign, if there is one, and what follows it. -/
def splitUser (cs : List Char) : Option (List Char) × List Char :=
  let rest := (cs.reverse.takeWhile (· != '@')).reverse
  if rest.length = cs.length then (none, cs)
  else (some (cs.take (cs.length - rest.length - 1)), rest)

/-- A colon alone stands for neither a name nor a password. -/
def isUser (cs : List Char) : Bool := !cs.isEmpty && cs != [':']

/-- The host and what follows it from a colon on. A colon in brackets belongs to the host. -/
def splitPort (inBrackets : Bool) : List Char → List Char × List Char
  | [] => ([], [])
  | c :: rest =>
    if c = ':' ∧ !inBrackets then ([], c :: rest)
    else
      let (host, port) := splitPort (c == '[' || (c != ']' && inBrackets)) rest
      (c :: host, port)

/-- What follows the colon after a host, up to a backslash. -/
def checkPort (cs : List Char) : Except AddressFault Unit :=
  let port := cs.takeWhile (· != '\\')
  if port.all Text.isDigit && Text.digitsValue port ≤ 65535 then .ok () else .error .badPort

/-- The host between a user and a port, at the front of the text after the slashes. A user or a port
needs a host. -/
def authority (form : Form) (cs : List Char) : Except AddressFault (Option String) := do
  let front := cs.takeWhile (!isEnd form ·)
  let (user, rest) := splitUser front
  if user = some [] ∧ rest = [] ∧ front.length < cs.length then throw .emptyHost
  let (host, port) := splitPort false rest
  if host.isEmpty then
    if form = .web ∨ port ≠ [] ∨ user.any isUser then throw .emptyHost
    pure none
  else
    Host.check (form = .web) host
    checkPort (port.drop 1)
    pure (some (String.ofList host))

/-- The letter of a drive, with a colon or a bar. -/
def isDrive : List Char → Bool
  | [letter, mark] => letter.isAlpha && (mark == ':' || mark == '|')
  | _ => false

/-- The host of a file, which is none if the file is on a drive or on the machine itself. -/
def fileHost (cs : List Char) : Except AddressFault (Option String) := do
  let host := cs.takeWhile (!isEnd .file ·)
  if host.isEmpty || isDrive host then pure none
  else
    Host.check true host
    let path := (cs.dropWhile (!isEnd .file ·)).drop 1
    if String.ofList (host.map Char.toLower) = "localhost" ∨
        isDrive (path.takeWhile (!isEnd .file ·)) then
      pure none
    else
      pure (some (String.ofList host))

/-- The host in what follows the colon of a scheme. -/
def hostAfter (form : Form) (cs : List Char) : Except AddressFault (Option String) :=
  match form with
  | .web => authority form (cs.dropWhile (isSlash form))
  | .file | .other =>
    match cs with
    | a :: b :: rest =>
      if isSlash form a && isSlash form b then
        if form = .file then fileHost rest else authority form rest
      else
        .ok none
    | _ => .ok none

def isPadding (c : Char) : Bool := c.toNat ≤ 0x20

def isSkipped (c : Char) : Bool := c == '\t' || c == '\n' || c == '\r'

/-- Reads an address. Controls and spaces around it do not count, and line ends and tabs nowhere. -/
def parse (text : String) : Except AddressFault Address := do
  let cs := Text.dropEndWhile isPadding (text.toList.dropWhile isPadding)
  match splitScheme? (cs.filter (!isSkipped ·)) with
  | none => throw .relative
  | some (scheme, rest) => pure ⟨scheme, ← hostAfter (formOf scheme) rest⟩

end Address

end KeyedRecords
