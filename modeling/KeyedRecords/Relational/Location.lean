import KeyedRecords.Relational.Opening

/-!
Where a database is: a URL of a path and parameters.
-/

namespace KeyedRecords

structure Location where
  path : String
  inMemory : Bool
  access : Access := .write
  isImmutable : Bool := false
  /-- The file system that the path is for, if one is named. -/
  fileSystem : Option String := none
  deriving DecidableEq

namespace Location

/-- Drops a word from the front as often as it stands there. -/
def dropRepeated (word : String) (s : String) : String :=
  s.length.repeat (fun s => (s.dropPrefix word).toString) s

def expect (parameter value : String) (known : List String) : Except ConnectFault Unit :=
  if known.contains value then .ok () else .error (.unknownValue parameter value)

/-- To be read only is the stronger wish. -/
def setMode (l : Location) (value : String) : Location :=
  match value with
  | "ro" => { l with access := .read }
  | "rwc" => if l.access = .read then l else { l with access := .create }
  | "memory" => { l with inMemory := true }
  | _ => l

def addParameter (l : Location) (p : String × String) : Except ConnectFault Location := do
  let (name, value) := p
  match name with
  | "mode" =>
    expect name value ["ro", "rw", "rwc", "memory"]
    pure (l.setMode value)
  | "cache" =>
    expect name value ["private", "shared"]
    pure l
  | "immutable" =>
    expect name value ["true", "1", "false", "0"]
    pure { l with isImmutable := ["true", "1"].contains value }
  | "vfs" => pure { l with fileSystem := some value }
  | _ => throw (.unknownParameter name)

/-- Percent signs in a path stand for bytes, but not in the name of a database in memory, which has
no path. -/
def ofPath (path : String) : Except ConnectFault Location :=
  if path = Opening.memoryPath then .ok { path := "", inMemory := true }
  else match Utf8.decode (Percent.decode path.toList) with
    | .ok path => .ok { path, inMemory := false }
    | .error (before, gap) => .error (.notText before gap)

/-- The path comes before the parameters, and the first fault counts. -/
def parse (url : String) : Except ConnectFault Location := do
  let rest := dropRepeated "sqlite:" (dropRepeated "sqlite://" url)
  let (path, parameters) := Percent.cut '?' rest.toList
  (Percent.form (String.ofList parameters)).foldlM addParameter (← ofPath (String.ofList path))

/-- The front of a text up to a zero. -/
def untilZero (s : String) : String := String.ofList (s.toList.takeWhile (· != '\x00'))

/-- A file system as it is passed on in a URI, where a space is written as a plus sign. -/
def passedOn (s : String) : String := (untilZero s).map fun c => if c = ' ' then '+' else c

/-- What is opened at a location. The path is the whole name of the file, unless there is more to
pass on than a name: then it is the path in a URI, which ends at a zero. -/
def opening (l : Location) : Except ConnectFault Opening :=
  if l.isImmutable || l.fileSystem.isSome then
    .ok ⟨untilZero l.path, none, l.inMemory, l.fileSystem.map passedOn⟩
  else if l.path.contains '\x00' then .error .zeroInName
  else Opening.ofName l.path l.access l.inMemory

def check (l : Location) : Except ConnectFault Unit := do (← l.opening).check

end Location

end KeyedRecords
