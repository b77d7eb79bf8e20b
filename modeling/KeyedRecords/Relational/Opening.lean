import KeyedRecords.ConnectFault
import KeyedRecords.Text.Percent

/-!
What is opened as a database: a path in a file system, or nothing but memory. The name of a file may
be a URI of its own, with parameters that settle the rest.
-/

namespace KeyedRecords

/-- What a database may be opened for. -/
inductive Access where
  | read
  | write
  | create
  deriving DecidableEq

namespace Access

def ofName? (name : String) : Option Access :=
  [("ro", read), ("rw", write), ("rwc", create)].lookup name

/-- Whether an access is no more than another. -/
def isWithin : Access → Access → Bool
  | read, _ => true
  | write, read => false
  | write, _ => true
  | create, a => a == create

end Access

structure Opening where
  path : String
  /-- What the database is opened for at most, if that is limited. -/
  limit : Option Access
  inMemory : Bool
  /-- The file system that the path is for, if not the usual one. -/
  fileSystem : Option String
  deriving DecidableEq

namespace Opening

/-- A part of a URI. Percent signs stand for bytes, and a zero byte ends the part. -/
def part (cs : List Char) : String :=
  Utf8.decodeLossy ((Percent.decode cs).takeWhile (· != 0))

/-- The parameters of a URI; those without a name are passed over. -/
def parameters (cs : List Char) : List (String × String) :=
  (((String.ofList cs).splitOn "&").map fun parameter =>
    let (name, value) := Percent.cut '=' parameter.toList
    (part name, part value)).filter (!·.1.isEmpty)

/-- What comes after the host, which has to be this one if it is named. -/
def afterHost : List Char → Except ConnectFault (List Char)
  | '/' :: '/' :: rest =>
    let host := String.ofList (rest.takeWhile (· != '/'))
    if host.isEmpty || host == "localhost" then .ok (rest.dropWhile (· != '/'))
    else .error (.badAuthority host)
  | cs => .ok cs

def setMode (o : Opening) (value : String) : Except ConnectFault Opening :=
  match Access.ofName? value with
  | some access =>
    if o.limit.all access.isWithin then
      .ok { o with limit := some access, inMemory := false }
    else .error (.notAllowed value)
  | none =>
    if value = "memory" then .ok { o with limit := none, inMemory := true }
    else .error (.noSuchMode "access" value)

def addParameter (o : Opening) (p : String × String) : Except ConnectFault Opening :=
  match p with
  | ("vfs", value) => .ok { o with fileSystem := some value }
  | ("mode", value) => o.setMode value
  | ("cache", value) =>
    if ["shared", "private"].contains value then .ok o else .error (.noSuchMode "cache" value)
  | _ => .ok o

/-- Reads the name of a file, which is a URI if it begins as one. In memory nothing is limited. -/
def ofName (name : String) (access : Access) (inMemory : Bool) : Except ConnectFault Opening := do
  let limit := if inMemory then none else some access
  match name.toList with
  | 'f' :: 'i' :: 'l' :: 'e' :: ':' :: rest =>
    let uri := (← afterHost rest).takeWhile (· != '#')
    let (path, query) := Percent.cut '?' uri
    (parameters query).foldlM addParameter ⟨part path, limit, inMemory, none⟩
  | _ => .ok ⟨name, limit, inMemory, none⟩

def memoryPath : String := ":memory:"

/-- A file system of its own, in memory. -/
def memorySystem : String := "memdb"

def fileSystems : List String :=
  ["unix", "unix-dotfile", "unix-excl", "unix-none", memorySystem]

/-- Whether a database can be opened. There are no files, but a database without a path lasts as
long as the connection. -/
def check (o : Opening) : Except ConnectFault Unit := do
  if let some name := o.fileSystem then
    if !fileSystems.contains name then throw (.noSuchFileSystem name)
  let needsFile := !o.inMemory && !(["", memoryPath].contains o.path)
  if needsFile && o.fileSystem ≠ some memorySystem then throw .cannotOpen

end Opening

end KeyedRecords
