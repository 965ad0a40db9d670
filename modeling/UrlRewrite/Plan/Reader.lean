import UrlRewrite.Datum.Basic
import UrlRewrite.Plan.Basic

/-!
# Reading test plans

A plan is a record of a document in YAML or TOML notation, and so are its parts: the server, the
requests and what is expected of them. Keys that mean nothing to a record are passed over, and no
other key may be there twice (`Plan.record`). A field that may be missing may also be null, and any
other field may not.

`Plan.ofDatum` reads a plan from a document, whatever notation the document is written in.
-/

namespace UrlRewrite

/-- Why a document is no plan. -/
inductive PlanError where
  | unreadable
  | missing (field : String)
  | repeated (field : String)
  | unexpected (field : String) (wanted : String)
deriving DecidableEq, Repr

namespace PlanError

def message : PlanError → String
  | unreadable => "The plan cannot be read"
  | missing field => "Missing " ++ field ++ " in the plan"
  | repeated field => "Repeated " ++ field ++ " in the plan"
  | unexpected field wanted => "Invalid " ++ field ++ " in the plan, expected " ++ wanted

end PlanError

namespace Plan

/-- The largest number of restarts that a plan can allow. -/
def maxCount : Nat := 0xFFFFFFFFFFFFFFFF

/-- The largest status that a plan can expect. -/
def maxStatus : Nat := 0xFFFF

variable {α : Type}

/-- The table of a record with the given fields. A list is a record as well, with the values in the
order of the fields, the last `spare` of which it may leave out. -/
def record (name : String) (fields : List String) (spare : Nat) : Datum → Except PlanError Datum
  | .table rows =>
    match fields.find? fun field => 1 < rows.countP (·.1 == field.toList) with
    | some field => .error (.repeated field)
    | none => .ok (.table rows)
  | .list items =>
    if items.length ≤ fields.length ∧ fields.length ≤ items.length + spare then
      .ok (.ofFields (fields.zip items))
    else .error (.unexpected name "a value for each field")
  | .other [] => .ok (.table [])
  | _ => .error (.unexpected name "a record")

/-- The value of a field that may be missing. -/
def optionalBy (read : Datum → Except PlanError α) (d : Datum) (field : String) :
    Except PlanError (Option α) :=
  if (d.field field).isNull then .ok none else (read (d.field field)).map some

/-- Reads the value of a field. -/
def wantedAs (read : Datum → Option α) (wanted field : String) (d : Datum) : Except PlanError α :=
  match read d with
  | some a => .ok a
  | none => .error (.unexpected field wanted)

def optional (read : Datum → Option α) (wanted : String) (d : Datum) (field : String) :
    Except PlanError (Option α) :=
  optionalBy (wantedAs read wanted field) d field

/-- The value of a field that must not be missing. -/
def required (read : Datum → Option α) (wanted : String) (d : Datum) (field : String) :
    Except PlanError α :=
  match d.field? field with
  | some value => wantedAs read wanted field value
  | none => .error (.missing field)

/-- The value of a field that has a default. -/
def defaulted (read : Datum → Option α) (wanted : String) (standard : α) (d : Datum)
    (field : String) : Except PlanError α :=
  match d.field? field with
  | some value => wantedAs read wanted field value
  | none => .ok standard

def optionalText : Datum → String → Except PlanError (Option Text) := optional Datum.text? "a text"

/-- The rows of a table of texts, in the order of their keys. -/
def texts? (d : Datum) : Option (List (Text × Text)) := do
  let rows ← d.table?
  (sortRows <$> rows.mapM fun row => (row.2.text?).map (row.1, ·))

/-- The rows of a table of tables of texts, in the order of their keys. -/
def textTables? (d : Datum) : Option (List (Text × List (Text × Text))) := do
  let rows ← d.table?
  (sortRows <$> rows.mapM fun row => (texts? row.2).map (row.1, ·))

/-- The address, the port and the names of the server; without a value, the default counts. -/
def readServer (d : Datum) : Except PlanError Server := do
  let standard : Server := {}
  let d ← record "server"
    ["ip", "port", "https", "server_name", "server_admin", "document_root"] 0 d
  let ip ← optionalText d "ip"
  let port ← optional (Datum.nat? Text.maxPort) "a port" d "port"
  let https ← optional Datum.boolean? "true or false" d "https"
  let name ← optionalText d "server_name"
  let admin ← optionalText d "server_admin"
  let documentRoot ← optionalText d "document_root"
  return {
    ip := ip.getD standard.ip, port := port.getD standard.port, https := https.getD standard.https
    name, admin, documentRoot }

/-- What is expected of a request. -/
def readExpectation (d : Datum) : Except PlanError Expectation := do
  let d ← record "expect" ["uri", "status", "host"] 0 d
  let uri ← optionalText d "uri"
  let status ← optional (Datum.nat? maxStatus) "a status" d "status"
  let host ← optionalText d "host"
  return { uri, status, host }

/-- A request. -/
def readCase (d : Datum) : Except PlanError RequestCase := do
  let d ← record "request" ["name", "method", "uri", "host", "headers", "expect"] 0 d
  let name ← optionalText d "name"
  let method ← optionalText d "method"
  let uri ← required Datum.text? "a text" d "uri"
  let host ← optionalText d "host"
  let headers ← defaulted texts? "a table of texts" [] d "headers"
  let expected ← optionalBy readExpectation d "expect"
  return {
    name, uri, headers, expected
    method := method.getD "GET".toList
    host := host.getD "localhost".toList }

/-- The path of the configuration. -/
def readConfigPath (d : Datum) : Except PlanError Text := do
  let d ← record "apache" ["config"] 0 d
  required Datum.text? "a text" d "config"

/-- Reads a plan from a document. -/
def ofDatum (d : Datum) : Except PlanError Plan := do
  let d ← record "document" ["apache", "server", "maps", "max_iterations", "requests"] 1 d
  let config ← optionalBy readConfigPath d "apache"
  let server ← optionalBy readServer d "server"
  let tables ← defaulted textTables? "a table of tables of texts" [] d "maps"
  let maxIterations ← optional (Datum.nat? maxCount) "a number" d "max_iterations"
  let requests ← defaulted Datum.list? "a list" [] d "requests"
  let cases ← requests.mapM readCase
  return { config, server := server.getD {}, tables, maxIterations, cases }

/-- Reads a plan from a text, by way of a document. -/
def readBy (document? : Text → Option Datum) (s : Text) : Except PlanError Plan :=
  match document? s with
  | some d => ofDatum d
  | none => .error .unreadable

end Plan

end UrlRewrite
