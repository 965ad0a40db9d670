import UrlRewrite.Bindings
import UrlRewrite.Query
import UrlRewrite.Request.Address
import UrlRewrite.Text.Quoted

/-!
# Requests

A request: its method, URI and version, its headers and perhaps the address of the peer. Names of
headers are compared without regard to case, and a header that is set again replaces the value it
had.

A request can be read from the head of an HTTP message (`Request.read`).
-/

namespace UrlRewrite

/-- Why a text is no request. -/
inductive RequestError where
  | empty
  | invalidRequestLine (line : Text)
  | invalidHeader (line : Text)
deriving DecidableEq, Repr

namespace RequestError

def message : RequestError → String
  | empty => "Request text is empty"
  | invalidRequestLine line => "Invalid request line " ++ Text.quoted line
  | invalidHeader line => "Invalid header line " ++ Text.quoted line

end RequestError

/-- Headers: names and values. -/
abbrev Headers := List (Text × Text)

namespace Headers

/-- The value of a header. -/
def get? (name : Text) : Headers → Option Text
  | [] => none
  | (n, v) :: rest => if Text.sameFolded n name then some v else get? name rest

/-- The headers with a value for a name. -/
def set (name value : Text) : Headers → Headers
  | [] => [(name, value)]
  | (n, v) :: rest =>
    if Text.sameFolded n name then (n, value) :: rest else (n, v) :: set name value rest

/-- Whether two tables give the same value to every name. -/
def same (a b : Headers) : Bool :=
  a.length == b.length && a.all fun h => get? h.1 b == some h.2

end Headers

/-- A request. -/
structure Request where
  method : Text
  uri : Text
  version : Text := "HTTP/1.1".toList
  headers : Headers := []
  peer : Option SocketAddress := none
deriving DecidableEq, Repr

namespace Request

/-- The request with a header. -/
def setHeader (r : Request) (name value : Text) : Request :=
  { r with headers := Headers.set name value r.headers }

def header? (r : Request) (name : Text) : Option Text := Headers.get? name r.headers

/-- The URI without its query. -/
def path (r : Request) : Text := (splitQuery r.uri).1

def query (r : Request) : Text := (splitQuery r.uri).2

/-- A host without its port. What stands behind a double colon is no port. -/
def withoutPort (host : Text) : Text :=
  match host.splitLast ':' with
  | some (name, port) => if name.getLast? ≠ some ':' && port.all Char.isDigit then name else host
  | none => host

/-- The host that is asked for. -/
def host? (r : Request) : Option Text := (r.header? "Host".toList).map withoutPort

/-- The first line of the request. -/
def line (r : Request) : Text := Text.joinWith [' '] [r.method, r.uri, r.version]

/-- Whether two requests are the same, the order of their headers aside. -/
def same (r s : Request) : Bool :=
  r.method == s.method && r.uri == s.uri && r.version == s.version && r.headers.same s.headers &&
    r.peer == s.peer

/-- The request that the first line of a message starts. -/
def ofLine? (line : Text) : Option Request :=
  match Text.words line with
  | [method, uri] => some { method, uri, version := "HTTP/0.9".toList }
  | [method, uri, version] =>
    if "HTTP/".toList.isPrefixOf version then some { method, uri, version } else none
  | _ => none

/-- The name and the value that a header line tells. -/
def headerOfLine? (line : Text) : Option (Text × Text) := do
  let (name, value) ← line.splitFirst ':'
  if (Text.trim name).isEmpty then none else some (Text.trim name, Text.trim value)

/-- Sets the headers that lines tell, up to a blank line. -/
def addLines (r : Request) : List Text → Except RequestError Request
  | [] => .ok r
  | line :: lines =>
    if (Text.trim line).isEmpty then .ok r
    else
      match headerOfLine? line with
      | none => .error (.invalidHeader line)
      | some (name, value) => addLines (r.setHeader name value) lines

/-- Reads the head of a message: a request line and header lines. Blank lines in front do not
count. -/
def read (s : Text) : Except RequestError Request :=
  match (Text.lines s).dropWhile fun line => (Text.trim line).isEmpty with
  | [] => .error .empty
  | line :: lines =>
    match ofLine? line with
    | none => .error (.invalidRequestLine line)
    | some r => r.addLines lines

/-- The server variables that the request gives. -/
def serverVariables (r : Request) : List (ServerVariable × Text) :=
  (ServerVariable.all.filterMap fun v => do
    some (v, ← r.header? (← v.header?).toList)) ++
  [(.requestMethod, r.method), (.requestUri, r.path), (.queryString, r.query),
    (.serverProtocol, r.version), (.pathInfo, []), (.isSubreq, "false".toList),
    (.theRequest, r.line)] ++
  match r.peer with
  | none => []
  | some peer =>
    let ip := peer.ip.text
    [(.remoteAddr, ip), (.remoteHost, ip), (.connRemoteAddr, ip),
      (.remotePort, Text.ofNat peer.port), (.ipv6, (if peer.ip.isV6 then "on" else "off").toList)]

end Request

end UrlRewrite
