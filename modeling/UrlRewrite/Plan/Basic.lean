import UrlRewrite.Site

/-!
# Test plans

A test plan names a configuration and lists requests to be made against it, with what is expected of
them. What it leaves out is filled in: a request is a `GET` to `localhost`, and the server is the
default one.

The tables of a plan, and the headers of its requests, are kept in the order of their keys
(`Plan.sortRows`), so that the order of writing does not matter; of two values for a key, the later
one counts.
-/

namespace UrlRewrite

/-- What is expected of a request. What is left out may be anything. -/
structure Expectation where
  uri : Option Text := none
  status : Option Nat := none
  host : Option Text := none
deriving DecidableEq, Repr

/-- A request of a plan. -/
structure RequestCase where
  name : Option Text := none
  method : Text := "GET".toList
  uri : Text
  host : Text := "localhost".toList
  headers : List (Text × Text) := []
  expected : Option Expectation := none
deriving DecidableEq, Repr

namespace RequestCase

/-- How reports call the request: by its name, or else by what is asked of which host. -/
def label (c : RequestCase) : Text := c.name.getD (c.method ++ ' ' :: c.host ++ c.uri)

/-- The request itself. Its headers stand behind that for the host, and may replace it. -/
def request (c : RequestCase) : Request :=
  c.headers.foldl (fun r h => r.setHeader h.1 h.2)
    (({ method := c.method, uri := c.uri } : Request).setHeader "Host".toList c.host)

end RequestCase

/-- A test plan. -/
structure Plan where
  /-- The path of the configuration, seen from the plan. -/
  config : Option Text := none
  server : Server := {}
  tables : List (Text × List (Text × Text)) := []
  maxIterations : Option Nat := none
  cases : List RequestCase := []

namespace Plan

variable {α : Type}

/-- Rows in the order of their keys, with one more row. A row with its key is replaced. -/
def insertRow (key : Text) (value : α) : List (Text × α) → List (Text × α)
  | [] => [(key, value)]
  | (k, v) :: rows =>
    match Text.order key k with
    | .lt => (key, value) :: (k, v) :: rows
    | .eq => (key, value) :: rows
    | .gt => (k, v) :: insertRow key value rows

/-- Rows in the order of their keys. -/
def sortRows (rows : List (Text × α)) : List (Text × α) :=
  rows.foldl (fun sorted row => insertRow row.1 row.2 sorted) []

/-- A site with the server, the tables and the bound of a plan. -/
def equip (p : Plan) (site : Site) : Site :=
  { site with
    server := p.server
    tables := p.tables
    maxIterations := p.maxIterations.getD site.maxIterations }

end Plan

end UrlRewrite
