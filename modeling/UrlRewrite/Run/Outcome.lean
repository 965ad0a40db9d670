import UrlRewrite.Rule
import UrlRewrite.Run.Control

/-!
# Outcomes

What a rule set makes of a request: a URI, a redirect or a status, and besides that cookies, a
content type, a handler and marks for the modules that work on the request next.
-/

namespace UrlRewrite

/-- What a request is rewritten to. -/
inductive Rewrite where
  | uri (uri : Text)
  | endUri (uri : Text)
  | redirect (uri : Text) (code : Nat)
  | status (code : Nat)
deriving DecidableEq, Repr

namespace Rewrite

def uri? : Rewrite → Option Text
  | uri u => some u
  | endUri u => some u
  | redirect u _ => some u
  | status _ => none

def status? : Rewrite → Option Nat
  | redirect _ code => some code
  | status code => some code
  | _ => none

/-- How reports call the form of a rewrite. -/
def kindName : Rewrite → String
  | uri _ => "uri"
  | endUri _ => "end"
  | redirect _ _ => "redirect"
  | status _ => "status"

end Rewrite

/-- What rules leave besides the URI. -/
structure Extras where
  cookies : List Cookie := []
  contentType : Option Text := none
  handler : Option Text := none
  proxy : Bool := false
  passThrough : Bool := false
deriving DecidableEq, Repr

namespace Extras

/-- The extras after one more effect. -/
def add (x : Extras) : Effect → Extras
  | .cookie c => { x with cookies := x.cookies ++ [c] }
  | .contentType name => { x with contentType := some name }
  | .handler name => { x with handler := some name }
  | .proxy => { x with proxy := true }
  | .passThrough => { x with passThrough := true }
  | _ => x

/-- The extras after a list of effects, field by field. -/
theorem foldl_add (x : Extras) (es : List Effect) :
    es.foldl add x =
      { cookies := x.cookies ++ es.filterMap Effect.cookie?
        contentType := (es.filterMap Effect.contentType?).getLast?.or x.contentType
        handler := (es.filterMap Effect.handler?).getLast?.or x.handler
        proxy := decide (.proxy ∈ es) || x.proxy
        passThrough := decide (.passThrough ∈ es) || x.passThrough } := by
  -- cookies are kept in their order, and of anything else the last one counts
  induction es generalizing x with
  | nil => simp
  | cons e es ih =>
    rw [List.foldl_cons, ih]
    cases e <;>
      simp [add, Effect.cookie?, Effect.contentType?, Effect.handler?, List.filterMap_cons,
        Control.getLast?_cons_or]

end Extras

/-- What a rule set makes of a request. -/
structure Outcome where
  rewrite : Rewrite
  extras : Extras
deriving DecidableEq, Repr

namespace Control

/-- The rewrite that a run ends with, if it is asked to end. A status goes before a redirect, that
before a proxy, that before an end, and that before a last rule. -/
def rewrite? (c : Control) (uri : Text) : Option Rewrite :=
  match c.status, c.redirect with
  | some code, _ => some (.status code)
  | none, some code => some (.redirect uri code)
  | none, none =>
    if c.proxy then some (.uri uri)
    else if c.endRun then some (.endUri uri)
    else if c.last then some (.uri uri)
    else none

/-- No rewrite is decided on exactly if nothing asks for one. -/
theorem rewrite?_eq_none_iff {c : Control} {uri : Text} :
    c.rewrite? uri = none ↔
      c.status = none ∧ c.redirect = none ∧ c.proxy = false ∧ c.endRun = false ∧
        c.last = false := by
  obtain ⟨status, redirect, proxy, endRun, last, next, skip⟩ := c
  cases status <;> cases redirect <;> cases proxy <;> cases endRun <;> cases last <;>
    simp [rewrite?]

end Control

end UrlRewrite
