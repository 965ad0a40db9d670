import UrlRewrite.Config.Selection
import UrlRewrite.Request.Server
import UrlRewrite.Run.Basic

/-!
# Sites

A site is a configuration together with the server it is for, lookup tables and a bound on restarts.
A request to it is answered by one scope, whose rule set is run, unless its engine is off, with the
bindings that the request and the server give.
-/

namespace UrlRewrite

/-- How often rules may restart a run, unless said otherwise. -/
def defaultMaxIterations : Nat := 10

/-- A configuration with all that evaluating requests takes. -/
structure Site where
  context : MainContext
  server : Server := {}
  tables : List (Text × List (Text × Text)) := []
  maxIterations : Nat := defaultMaxIterations

/-- What has become of a request. -/
structure Evaluation where
  /-- The scope that has answered. -/
  host : Text
  serverName : Option Text
  outcome : Outcome
  /-- The variables that rules have set. -/
  setVariables : List (Text × Text)
deriving DecidableEq, Repr

namespace Scope

/-- Runs the rule set of a scope on a request. With the engine off, the request is left as it is. -/
def run (s : Scope) (r : Request) (bound : Nat) (b : Bindings) :
    Except EvalError Outcome × Bindings :=
  if s.engineOn then Run.all (GuardedRule.group s.active) bound r.path b
  else (.ok ⟨.uri r.uri, {}⟩, b)

end Scope

namespace Site

/-- Reads the configuration of a site. -/
def read (s : Text) : Except ConfigError Site := (MainContext.read s).map fun context => { context }

/-- The scope that answers a request. -/
def scope (site : Site) (r : Request) : Scope :=
  site.context.select site.server.ip site.server.port r.host?

/-- The name of the scope that answers, or else of the main context. -/
def serverName? (site : Site) (r : Request) : Option Text :=
  (site.scope r).serverName?.or site.context.serverName?

/-- The server with a name, if the configuration tells one and the server has none itself. -/
def namedServer (site : Site) (r : Request) : Server :=
  { site.server with name := site.server.name.or (site.serverName? r) }

/-- The bindings that a run begins with. -/
def bindings (site : Site) (r : Request) (now : Moment) : Bindings :=
  Bindings.ofRequest r (site.namedServer r) now site.tables

/-- Evaluates a request that arrives at a moment. -/
def evaluate (site : Site) (now : Moment) (r : Request) : Except EvalError Evaluation :=
  match (site.scope r).run r site.maxIterations (site.bindings r now) with
  | (.error e, _) => .error e
  | (.ok outcome, b) => .ok ⟨(site.scope r).label, site.serverName? r, outcome, b.setVariables⟩

end Site

end UrlRewrite
