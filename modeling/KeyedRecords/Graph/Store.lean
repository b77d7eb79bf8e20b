import KeyedRecords.Graph.Bolt
import KeyedRecords.Graph.Settings
import KeyedRecords.Query.Identifier
import KeyedRecords.Store.Contract

/-!
A graph as an object store. Nodes are the objects: the scope is a label, the key is a property, and
the kind of a property is its tag.
-/

namespace KeyedRecords

/-- One column of a row that the graph returns. -/
inductive GraphCell where
  | value (b : Bolt)
  | node (n : Node)

/-- What comes back for a statement. -/
inductive Reply where
  | rows (columns : List String) (rows : List (List GraphCell))
  | failure (code text : String)
  /-- Nothing within the time allowed. -/
  | silence

/-- A statement as it was sent. -/
structure Sent where
  statement : String
  parameters : Keyed String Bolt
  database : String

/-- The server of a graph: the replies it has still to give, one for each statement, after which it
finds no rows; and the statements sent to it. -/
structure GraphServer where
  replies : List Reply := []
  sent : List Sent := []
  /-- Whether it takes connections. Without one a statement is not sent and times out. -/
  accepts : Bool := true

def GraphServer.run (server : GraphServer) (message : Sent) : Reply × GraphServer :=
  if !server.accepts then (.silence, server)
  else
    let server := { server with sent := server.sent ++ [message] }
    match server.replies with
    | [] => (.rows [] [], server)
    | reply :: rest => (reply, { server with replies := rest })

namespace GraphStore

/-- Whether a graph can be connected to with the settings. -/
def check (c : GraphSettings) : Except LookupError Unit := do
  Identifier.check "key property" c.keyProperty
  match c.checkAddress with
  | .ok () => pure ()
  | .error fault => throw (.store (.connect c.uri fault))

/-- Sends a statement and reads the rows that come back. `context` says what it is for. -/
def request {α : Type} (c : GraphSettings) (context statement : String)
    (parameters : Keyed String Bolt)
    (read : List String → List (List GraphCell) → Except LookupError α)
    (server : GraphServer) : Except LookupError α × GraphServer :=
  let (reply, server) := server.run ⟨statement, parameters, c.database⟩
  match reply with
  | .silence => (.error (.timeout c.timeout.millis context), server)
  | .failure code text => (.error (.driver (.server code text)), server)
  | .rows columns rows => (read columns rows, server)

def healthCheck (c : GraphSettings) (server : GraphServer) :
    Except LookupError Bool × GraphServer :=
  request c "health check" "RETURN 1" .empty (fun _ _ => .ok true) server

/-- The cell of a column. -/
def cell (columns : List String) (row : List GraphCell) (column : String) :
    Except LookupError GraphCell :=
  match (columns.zip row).find? (·.1 == column) with
  | some (_, cell) => .ok cell
  | none => .error (.decode .noSuchProperty)

def readNode (clocks : ZoneClocks) (scope : String) (columns : List String)
    (rows : List (List GraphCell)) : Except LookupError (Option TaggedObject) :=
  match rows with
  | [] => .ok none
  | row :: _ => do
    match ← cell columns row "n" with
    | .node n => some <$> n.object clocks scope
    | .value _ => throw (.decode .notANode)

def readKeys (clocks : ZoneClocks) (column : String) (columns : List String) :
    List (List GraphCell) → Except LookupError (List Value)
  | [] => .ok []
  | row :: rest => do
    let key ← match ← cell columns row column with
      | .value b => b.value clocks
      | .node _ => (Bolt.other .node).value clocks
    let keys ← readKeys clocks column columns rest
    pure (key :: keys)

/-- Runs `request` for a scope that can stand in a statement. -/
def inScope {α : Type} (scope : String)
    (request : GraphServer → Except LookupError α × GraphServer) (server : GraphServer) :
    Except LookupError α × GraphServer :=
  match Identifier.check "label" scope with
  | .ok () => request server
  | .error e => (.error e, server)

def keyParameter (key : Value) : Keyed String Bolt := .ofList [("key", .ofValue key)]

def get (clocks : ZoneClocks) (c : GraphSettings) (scope : String) (key : Value) :
    GraphServer → Except LookupError (Option TaggedObject) × GraphServer :=
  inScope scope (request c "get"
    ("MATCH (n:`" ++ scope ++ "`) WHERE n.`" ++ c.keyProperty ++ "` = $key RETURN n LIMIT 1")
    (keyParameter key) (readNode clocks scope))

/-- The parameters of a key query; of two arguments with one name the later counts. -/
def parameters (args : Arguments) : Keyed String Bolt :=
  .ofList (args.map fun (position, v) => (Arguments.nameOf position, .ofValue v))

def queryKeys (clocks : ZoneClocks) (c : GraphSettings) (statement column : String)
    (args : Arguments) : GraphServer → Except LookupError (List Value) × GraphServer :=
  request c "query" statement (parameters args) (readKeys clocks column)

/-- The fields of an object that are not null, as properties. -/
def properties (o : TaggedObject) : List (String × Bolt) :=
  (o.fields.pairs.filter fun f => !f.2.value.isNull).map fun f => (f.1, .ofValue f.2.value)

/-- Stores an object as a node; properties that the node has and the object has not stay. -/
def put (c : GraphSettings) (scope : String) (key : Value) (o : TaggedObject) :
    GraphServer → Except LookupError Unit × GraphServer :=
  inScope scope (request c "put"
    ("MERGE (n:`" ++ scope ++ "` \x7b`" ++ c.keyProperty ++ "`: $key\x7d) SET n += $props")
    ((keyParameter key).insert "props" (.map (properties o))) fun _ _ => .ok ())

def remove (c : GraphSettings) (scope : String) (key : Value) :
    GraphServer → Except LookupError Unit × GraphServer :=
  inScope scope (request c "remove"
    ("MATCH (n:`" ++ scope ++ "`) WHERE n.`" ++ c.keyProperty ++ "` = $key DETACH DELETE n")
    (keyParameter key) fun _ _ => .ok ())

def store (clocks : ZoneClocks) (c : GraphSettings) : ObjectStore GraphServer where
  ping server :=
    let (alive, server) := healthCheck c server
    (alive.map fun _ => (), server)
  vocabulary := .bolt
  dialect := .cypher
  get server scope key := get clocks c scope key server
  queryKeys server statement column args := queryKeys clocks c statement column args server

end GraphStore

end KeyedRecords
