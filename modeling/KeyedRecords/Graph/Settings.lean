import KeyedRecords.Calendar.Span
import KeyedRecords.Graph.Address
import KeyedRecords.Keyed

/-!
Settings of the connection to a graph.
-/

namespace KeyedRecords

structure GraphSettings where
  uri : String := "bolt://localhost:7687"
  user : String := "neo4j"
  password : String := "password"
  database : String := "neo4j"
  /-- The node property that holds the key. -/
  keyProperty : String := "key"
  /-- How long a request may take. -/
  timeout : Span := .ofSeconds 5
  fetchSize : Nat := 500
  maxConnections : Nat := 16
  deriving DecidableEq

namespace GraphSettings

/-- The settings that environment variables give. A timeout that is no number of seconds is passed
over. -/
def ofEnvironment (env : Keyed String String) : GraphSettings :=
  let defaults : GraphSettings := {}
  { defaults with
    uri := (env.get? "NEO4J_URI").getD defaults.uri
    user := (env.get? "NEO4J_USER").getD defaults.user
    password := (env.get? "NEO4J_PASSWORD").getD defaults.password
    database := (env.get? "NEO4J_DATABASE").getD defaults.database
    keyProperty := (env.get? "NEO4J_KEY_PROPERTY").getD defaults.keyProperty
    timeout := (((env.get? "NEO4J_TIMEOUT_SECS").bind (Text.unsigned? Text.maxWord)).map
      Span.ofSeconds).getD defaults.timeout }

/-- The address that a URI denotes. Without a host it is taken for what follows a scheme. -/
def address (c : GraphSettings) : Except AddressFault Address :=
  let withScheme := Address.parse ("bolt://" ++ c.uri)
  match Address.parse c.uri with
  | .ok address => if address.host.isSome then .ok address else withScheme
  | .error .relative => withScheme
  | .error fault => .error fault

def isKnownScheme (scheme : String) : Bool :=
  ["bolt", "bolt+s", "bolt+ssc", "neo4j", "neo4j+s", "neo4j+ssc"].contains scheme

/-- Whether the URI leads to a graph. -/
def checkAddress (c : GraphSettings) : Except ConnectFault Unit :=
  match c.address with
  | .ok address =>
    if isKnownScheme address.scheme then .ok () else .error (.unsupportedScheme address.scheme)
  | .error fault => .error (.badAddress fault)

end GraphSettings

end KeyedRecords
