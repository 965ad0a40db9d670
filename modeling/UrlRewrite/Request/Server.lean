import UrlRewrite.Request.Basic
import UrlRewrite.Request.Moment

/-!
# Servers

The server that a request arrives on, and the bindings with which working on a request begins: the
server variables that the request, the server and the time of the request give.
-/

namespace UrlRewrite

/-- A server. -/
structure Server where
  ip : Text := "127.0.0.1".toList
  port : Nat := 80
  https : Bool := false
  name : Option Text := none
  admin : Option Text := none
  documentRoot : Option Text := none
  software : Option Text := none
deriving DecidableEq, Repr

namespace Server

/-- The server variables that the server gives for a request. A server without a name goes by the
host that is asked for, or else by its address. -/
def serverVariables (s : Server) (r : Request) : List (ServerVariable × Text) :=
  let root := s.documentRoot.getD []
  let file := Text.dropEndWhile (· == '/') root ++ r.path
  [(.serverName, (s.name.or r.host?).getD s.ip), (.serverAddr, s.ip),
    (.serverPort, Text.ofNat s.port), (.serverSoftware, s.software.getD "Apache".toList)] ++
  (s.admin.map fun admin => (ServerVariable.serverAdmin, admin)).toList ++
  [(.apiVersion, "20120211:0".toList), (.https, (if s.https then "on" else "off").toList),
    (.requestScheme, (if s.https then "https" else "http").toList), (.contextPrefix, []),
    (.documentRoot, root), (.contextDocumentRoot, root), (.requestFilename, file),
    (.scriptFilename, file)]

end Server

namespace Bindings

/-- Binds server variables. -/
def setServers (b : Bindings) (values : List (ServerVariable × Text)) : Bindings :=
  values.foldl (fun b v => b.setServer v.1 v.2) b

/-- Binds what a request, a server and a moment give. -/
def seed (b : Bindings) (r : Request) (s : Server) (now : Moment) : Bindings :=
  ((b.setServers r.serverVariables).setServers (s.serverVariables r)).setServers now.serverVariables

/-- The bindings with which working on a request begins, with the entries of lookup tables. -/
def ofRequest (r : Request) (s : Server) (now : Moment)
    (tables : List (Text × List (Text × Text))) : Bindings :=
  tables.foldl (fun b table => b.addTable table.1 table.2) (empty.seed r s now)

end Bindings

end UrlRewrite
