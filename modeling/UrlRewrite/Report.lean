import UrlRewrite.Datum.Json
import UrlRewrite.Plan.Basic

/-!
# Reports

A report says what has become of a request of a plan, and where that is not what the plan expects
(`Report.failures`). It is written as lines of text (`Report.toText`) or as a table of data
(`Report.toDatum`).
-/

namespace UrlRewrite

/-- A request of a plan and what has become of it. -/
structure Report where
  subject : RequestCase
  result : Except EvalError Evaluation

/-- The report on a request of a plan that arrives at a moment. -/
def Site.report (site : Site) (now : Moment) (c : RequestCase) : Report :=
  ⟨c, site.evaluate now c.request⟩

namespace Report

/-- A value that may be missing, as failures show it. -/
def shown (value : Option Text) : Text :=
  match value with
  | some s => "Some(".toList ++ s ++ ")".toList
  | none => "None".toList

/-- A deviation of a value from the expected one, if one is expected. -/
def deviation {α : Type} [DecidableEq α] (name : String) (write : α → Text)
    (expected got : Option α) : List Text :=
  if expected.isSome ∧ got ≠ expected then
    ["expected ".toList ++ name.toList ++ " ".toList ++ shown (expected.map write) ++
      ", got ".toList ++ shown (got.map write)]
  else []

/-- The deviations of an evaluation from what is expected. -/
def deviations (x : Expectation) (e : Evaluation) : List Text :=
  deviation "uri" Text.quote x.uri e.outcome.rewrite.uri? ++
    deviation "status" Text.ofNat x.status e.outcome.rewrite.status? ++
    deviation "host" Text.quote x.host (some e.host)

/-- What is wrong: an error, or deviations from what is expected. -/
def failures (r : Report) : List Text :=
  match r.result with
  | .error e => ["evaluation failed: ".toList ++ e.message.toList]
  | .ok e => r.subject.expected.elim [] fun x => deviations x e

def passed (r : Report) : Bool := r.failures.isEmpty

/-- Whether the plan expects anything. -/
def checked (r : Report) : Bool := r.subject.expected.isSome

/-- The mark at the beginning of a report. -/
def mark (r : Report) : String :=
  if !r.passed then "FAIL" else if r.checked then "ok" else "--"

/-- The kind of a rewrite, and its status and target if it has them. -/
def rewriteText (w : Rewrite) : Text :=
  let kind := w.kindName.toList
  match w.status?, w.uri? with
  | some status, some target => kind ++ ' ' :: Text.ofNat status ++ ' ' :: target
  | some status, none => kind ++ ' ' :: Text.ofNat status
  | none, target => kind ++ ' ' :: target.getD []

/-- The lines on what rules leave besides the URI. -/
def extraLines (x : Extras) : List Text :=
  x.cookies.map (fun c => "set-cookie: ".toList ++ c.header) ++
    (x.contentType.map ("content-type: ".toList ++ ·)).toList ++
    (x.handler.map ("handler: ".toList ++ ·)).toList ++
    (if x.proxy then ["proxied".toList] else [])

/-- The first line of a report, behind the mark and the label. -/
def resultText : Except EvalError Evaluation → Text
  | .error e => "error: ".toList ++ e.message.toList
  | .ok e => rewriteText e.outcome.rewrite ++ " (".toList ++ e.host ++ ")".toList

/-- The lines below the first one. -/
def detailLines (r : Report) : List Text :=
  (match r.result with
  | .error _ => []
  | .ok e =>
    extraLines e.outcome.extras ++
      e.setVariables.map fun v => "env ".toList ++ v.1 ++ '=' :: v.2) ++
  r.failures

/-- The report in lines of text, without a line break at its end. -/
def toText (r : Report) : Text :=
  '[' :: r.mark.toList ++ "] ".toList ++ r.subject.label ++ " -> ".toList ++ resultText r.result ++
    r.detailLines.flatMap ("\n    ".toList ++ ·)

/-- The report as a table, in the order of its keys. -/
def toDatum (r : Report) : Datum :=
  let e? := r.result.toOption
  let rewrite? := e?.map (·.outcome.rewrite)
  let x := (e?.map (·.outcome.extras)).getD {}
  let error? : Option Text :=
    match r.result with
    | .error e => some e.message.toList
    | .ok _ => none
  .ofFields [
    ("checked", .boolean r.checked),
    ("content_type", .ofText? x.contentType),
    ("cookies", .ofTexts (x.cookies.map (·.header))),
    ("error", .ofText? error?),
    ("failures", .ofTexts r.failures),
    ("handler", .ofText? x.handler),
    ("host", .ofText? (e?.map (·.host))),
    ("kind", .text (rewrite?.elim "error" (·.kindName)).toList),
    ("method", .text r.subject.method),
    ("name", .text r.subject.label),
    ("passthrough", .boolean x.passThrough),
    ("proxy", .boolean x.proxy),
    ("server_name", .ofText? (e?.bind (·.serverName))),
    ("status", .ofNat? (rewrite?.bind (·.status?))),
    ("target", .ofText? (rewrite?.bind (·.uri?))),
    ("uri", .text r.subject.uri),
    ("variables", .ofRows ((e?.map (·.setVariables)).getD []))]

end Report

end UrlRewrite
