import Mathlib.Logic.Function.Basic
import UrlRewrite.Proofs.Flag.Order
import UrlRewrite.Proofs.Rule.Tests
import UrlRewrite.Proofs.Run.History

/-!
# The verdict of a run

What a run comes to is read off the applications in its history that have matched.

* Only the last of them can have ended the run, and it alone decides what the request is rewritten
  to. Its flags say so by a fixed precedence (`FlagSet.verdict`).
* All of them leave cookies and other extras, in their order (`Run.Trace.extras_eq`).
* The variables that rules have set are those of the beginning, changed by all of them in their
  order (`Application.change`, `Run.Trace.env?_eq`).

`Run.Settles` collects this, and `Scope.run_settles` says it of all requests that have an outcome.

Applications that have not matched leave nothing behind but groups of a match, since the tests of a
rule change no other bindings (`Rule.get?_test`). So the query and the variables in front of one are
those behind it.
-/

namespace UrlRewrite

namespace FlagSet

open RuleFlag

/-! ### What flags decide -/

/-- The rewrite that the flags of the last rule decide on. A status goes before a redirect, that
before a proxy, and that before an end; otherwise it is the URI. -/
def verdict (s : FlagSet RuleFlag) (uri : Text) : Rewrite :=
  match s.status?, s.redirect? with
  | some code, _ => .status code
  | none, some code => .redirect uri code
  | none, none =>
    if s.contains Kind.proxy then .uri uri
    else if s.contains Kind.endRun then .endUri uri
    else .uri uri

/-- A rewrite that flags ask for is their verdict; if they ask for none, the verdict is the URI. -/
theorem verdict_eq (s : FlagSet RuleFlag) (uri : Text) :
    s.verdict uri = (s.control.rewrite? uri).getD (.uri uri) := by
  rw [verdict, Control.rewrite?]
  cases hstatus : s.status? with
  | some code => simp [control, hstatus]
  | none =>
    cases hredirect : s.redirect? with
    | some code => simp [control, hstatus, hredirect]
    | none =>
      -- the mark of a last rule does not matter here, since it asks for the URI as well
      cases hproxy : s.contains Kind.proxy <;> cases hend : s.contains Kind.endRun <;>
        cases hlast : s.contains Kind.last <;>
          simp [control, hstatus, hredirect, hproxy, hend, hlast]

end FlagSet

/-! ### Variables that rules set -/

/-- Whether an effect changes a variable. -/
def Effect.changesEnv : Effect → Bool
  | .setEnv _ _ => true
  | .unsetEnv _ => true
  | _ => false

/-- The value of a variable that rules have set. -/
def Bindings.env? (b : Bindings) (name : Text) : Option Text := b.get? (.env name)

namespace Rule

variable {r : Rule} {conditions : List Condition} {path : Text} {b : Bindings}

/-- Only the effects on variables change bindings. -/
theorem foldl_applyEffect (r : Rule) (es : List Effect) (b : Bindings) :
    es.foldl r.applyEffect b = (es.filter Effect.changesEnv).foldl r.applyEffect b := by
  induction es generalizing b with
  | nil => rfl
  | cons e es ih =>
    rw [List.foldl_cons, ih]
    cases e <;> rfl

theorem env?_requery : (r.requery path b).env? = b.env? := by
  funext name
  rw [Bindings.env?, requery, Bindings.setServer, Bindings.get?_set]
  exact if_neg (by simp)

theorem env?_test : (r.test conditions path b).2.env? = b.env? := by
  funext name
  exact get?_test (by simp)

theorem server?_test (v : ServerVariable) : (r.test conditions path b).2.server? v = b.server? v :=
  get?_test (by simp)

/-- Effects change no server variables. -/
theorem server?_foldl_applyEffect (es : List Effect) (v : ServerVariable) :
    (es.foldl r.applyEffect b).server? v = b.server? v := by
  -- an effect sets variables of the environment, if anything
  have hone : ∀ (b : Bindings) (e : Effect), (r.applyEffect b e).server? v = b.server? v := by
    intro b e
    cases e with
    | setEnv name value => rw [Bindings.server?, applyEffect, Bindings.get?_set]; rfl
    | unsetEnv name => rw [Bindings.server?, applyEffect, Bindings.get?_unset]; rfl
    | _ => rfl
  induction es generalizing b with
  | nil => rfl
  | cons e es ih => rw [List.foldl_cons, ih, hone]

end Rule

namespace Application

variable {a : Application}

/-- The bindings behind the tests of the rule. -/
def tested (a : Application) : Bindings :=
  (a.rule.test a.guarded.conditions a.before.path a.before.bindings).2

/-- The bindings that the value of a variable is rendered with: those behind the tests, with the
query that the rule makes of the one at hand. -/
def requeried (a : Application) : Bindings := a.rule.requery a.before.path a.tested

/-- The value that the rule sets a variable to. -/
def value (a : Application) : Text :=
  (a.rule.envValue.map fun t => t.render a.requeried false).getD []

/-- What the rule does to the variables that rules have set. -/
def change (a : Application) (vars : Text → Option Text) : Text → Option Text :=
  match a.rule.flags.effectOf? RuleFlag.Kind.env with
  | some (.setEnv name _) => Function.update vars name (some a.value)
  | some (.unsetEnv name) => Function.update vars name none
  | _ => vars

/-- A rule that does not match leaves the bindings as its tests do. -/
theorem after_of_not_matched (hm : a.matched = false) : a.after = a.tested := by
  refine Rule.snd_apply_of_not_matched fun o ho => ?_
  have hresult : a.result.1 = .ok o := ho
  rwa [matched, hresult] at hm

/-- A rule that matches rewrites the path with its effects, on the bindings that its tests have
left. -/
theorem exists_rewrite_of_matched (hm : a.matched = true) :
    ∃ o : RuleOutcome, o.path = a.path ∧
      a.rule.rewrite a.before.path a.effects a.tested = (o, a.after) := by
  obtain ⟨o, hresult, ho, hpath, heffects⟩ := exists_outcome_of_matched hm
  obtain ⟨b₁, htest, -, hrewrite⟩ := Rule.apply_matched hresult ho
  have htested : a.tested = b₁ := by rw [tested, htest]
  exact ⟨o, hpath, by rw [htested, ← heffects, hrewrite]⟩

/-- Behind a rule that matches, its effects have been applied in their order. -/
theorem after_of_matched (hm : a.matched = true) :
    a.after = a.effects.foldl a.rule.applyEffect a.requeried := by
  obtain ⟨o, -, hrewrite⟩ := exists_rewrite_of_matched hm
  exact (congrArg Prod.snd hrewrite).symm

/-- A rule that matches changes the variables as its flag says. -/
theorem env?_of_matched (hm : a.matched = true) :
    a.after.env? = a.change a.before.bindings.env? := by
  have hrequeried : a.requeried.env? = a.before.bindings.env? :=
    Rule.env?_requery.trans Rule.env?_test
  -- a rule has at most one flag that changes a variable, and so at most one such effect
  have hfilter : a.effects.filter Effect.changesEnv =
      ((a.rule.flags.effectOf? RuleFlag.Kind.env).bind
        (Option.guard Effect.changesEnv)).toList := by
    rw [← List.filterMap_eq_filter,
      FlagSet.filterMap_effects_of_kind (effects_of_matched hm) (k := .env)]
    rintro e b h
    cases e <;> simp_all [Effect.changesEnv, Effect.kinds]
  rw [after_of_matched hm, Rule.foldl_applyEffect, hfilter, change, ← hrequeried]
  -- the cases are those of `change`: a variable is set, one is unset, and neither
  split
  · rename_i name written heffect
    rw [heffect]
    funext n
    change (a.requeried.set (.env name) a.value).get? (.env n) = _
    rw [Bindings.get?_set, Function.update_apply]
    simp only [Key.env.injEq, eq_comm, Bindings.env?]
  · rename_i name heffect
    rw [heffect]
    funext n
    change (a.requeried.unset (.env name)).get? (.env n) = _
    rw [Bindings.get?_unset, Function.update_apply]
    simp only [Key.env.injEq, eq_comm, Bindings.env?]
  · rename_i hset hunset
    have hnone : (a.rule.flags.effectOf? RuleFlag.Kind.env).bind
        (Option.guard Effect.changesEnv) = none := by
      cases heffect : a.rule.flags.effectOf? RuleFlag.Kind.env with
      | none => rfl
      | some e => cases e <;> first | rfl | exact absurd heffect (by simp_all)
    rw [hnone]
    rfl

/-- A rule that does not match sets no variable. -/
theorem env?_of_not_matched (hm : a.matched = false) : a.after.env? = a.before.bindings.env? := by
  rw [after_of_not_matched hm]
  exact Rule.env?_test

/-- A rule that does not match leaves the server variables as they are. -/
theorem server?_of_not_matched (hm : a.matched = false) (v : ServerVariable) :
    a.after.server? v = a.before.bindings.server? v := by
  rw [after_of_not_matched hm]
  exact Rule.server?_test v

/-- The flags of a rule that has matched without ending the run decide on the URI. -/
theorem verdict_of_not_ends (hm : a.matched = true) (hends : a.ends = false) (uri : Text) :
    a.rule.flags.verdict uri = .uri uri := by
  rw [FlagSet.verdict_eq, (rewrite?_eq_none_iff_ends hm).2 hends, Option.getD_none]

end Application

namespace Run

/-! ### What matches leave -/

variable {rules : List GuardedRule} {bound : Nat} {r : Run} {as : List Application} {o : Outcome}
  {result : Except EvalError Outcome × Bindings}

/-- The URI depends on no binding but the query. -/
theorem uriOf_congr {path : Text} {b b' : Bindings}
    (h : b'.server? .queryString = b.server? .queryString) :
    uriOf path b' = uriOf path b := by
  rw [uriOf, uriOf, h]

theorem mem_dropLast_cons {α : Type} {a x : α} {l : List α} (h : x ∈ (a :: l).dropLast) :
    x = a ∨ x ∈ l.dropLast := by
  cases l with
  | nil => simp at h
  | cons b l => exact List.mem_cons.1 h

namespace Trace

/-- Of the applications that have matched, only the last one can have ended the run. -/
theorem not_ends (h : Trace rules bound r as result) :
    ∀ m ∈ (as.filter Application.matched).dropLast, m.ends = false := by
  -- a single application is the last one that has matched, if it has
  have hone : ∀ a : Application, ([a].filter Application.matched).dropLast = [] := by
    intro a
    cases hm : a.matched <;> simp [hm]
  induction h with
  | exhausted => simp
  | ended => simp [hone]
  | failed => simp [hone]
  | step hg hmove hrest ih =>
    intro m hmem
    rcases hmove.carries_on with ⟨hm, -, -⟩ | ⟨hm, hends, -, -⟩
    · rw [List.filter_cons_of_neg (by simp [hm])] at hmem
      exact ih m hmem
    · -- a rule that has matched, and lets the run go on, has not ended it
      rw [List.filter_cons_of_pos hm] at hmem
      rcases mem_dropLast_cons hmem with rfl | hmem
      · exact hends
      · exact ih m hmem

/-- The last application that has matched decides the rewrite. -/
theorem rewrite_eq (h : Trace rules bound r as result) (ho : result.1 = .ok o) :
    o.rewrite = (as.filter Application.matched).getLast?.elim (.uri (uriOf r.path r.bindings))
      fun m => m.rule.flags.verdict (uriOf m.path m.after) := by
  induction h with
  | exhausted => rw [← Except.ok.inj ho]; rfl
  | failed => cases ho
  | @ended r g o b hg hmove =>
    -- the run ends with the rewrite that the flags ask for, which is their verdict
    obtain ⟨hm, hrewrite, -⟩ := hmove.ended_eq
    have hb : b = (⟨r, g⟩ : Application).after := hmove.bindings_eq
    have hdecided : (⟨r, g⟩ : Application).rule.flags.control.rewrite?
        (uriOf (⟨r, g⟩ : Application).path b) = some o.rewrite := hrewrite
    rw [← Except.ok.inj ho, List.filter_cons_of_pos hm, List.filter_nil, List.getLast?_singleton,
      Option.elim_some, FlagSet.verdict_eq, ← hb, hdecided, Option.getD_some]
  | @step r r' g as result hg hmove hrest ih =>
    have hbindings : r'.bindings = (⟨r, g⟩ : Application).after := hmove.bindings_eq
    rw [ih ho, hbindings]
    rcases hmove.carries_on with ⟨hm, hpath, -⟩ | ⟨hm, hends, hpath, -⟩
    · -- a rule that has not matched leaves the path and the query
      rw [List.filter_cons_of_neg (by simp [hm]), hpath,
        uriOf_congr (Application.server?_of_not_matched hm _)]
    · rw [List.filter_cons_of_pos hm, List.getLast?_cons, hpath]
      -- if no later rule matches, the URI at the end is the one that this rule has left
      cases (as.filter Application.matched).getLast? with
      | none => exact (Application.verdict_of_not_ends hm hends _).symm
      | some m => rfl

/-- The effects of the applications that have matched make the extras, in their order. -/
theorem extras_eq (h : Trace rules bound r as result) (ho : result.1 = .ok o) :
    o.extras =
      ((as.filter Application.matched).flatMap Application.effects).foldl Extras.add r.extras := by
  induction h with
  | exhausted => rw [← Except.ok.inj ho]; rfl
  | failed => cases ho
  | ended hg hmove =>
    obtain ⟨hm, -, hextras⟩ := hmove.ended_eq
    rw [← Except.ok.inj ho, hextras, List.filter_cons_of_pos hm, List.filter_nil,
      List.flatMap_singleton]
  | step hg hmove hrest ih =>
    rw [ih ho]
    rcases hmove.carries_on with ⟨hm, -, hextras⟩ | ⟨hm, -, -, hextras⟩
    · rw [List.filter_cons_of_neg (by simp [hm]), hextras]
    · -- the extras at hand are those after the effects of this rule, and later ones follow
      rw [List.filter_cons_of_pos hm, List.flatMap_cons, List.foldl_append, hextras]

/-- The applications that have matched change the variables, in their order. -/
theorem env?_eq (h : Trace rules bound r as result) :
    result.2.env? =
      (as.filter Application.matched).foldl (fun vars m => m.change vars) r.bindings.env? := by
  -- one application is the first change if it has matched, and none otherwise
  have hafter : ∀ (a : Application) (as : List Application),
      (as.filter Application.matched).foldl (fun vars m => m.change vars) a.after.env? =
        ((a :: as).filter Application.matched).foldl (fun vars m => m.change vars)
          a.before.bindings.env? := by
    intro a as
    cases hm : a.matched with
    | true => rw [List.filter_cons_of_pos hm, List.foldl_cons, Application.env?_of_matched hm]
    | false => rw [List.filter_cons_of_neg (by simp [hm]), Application.env?_of_not_matched hm]
  induction h with
  | exhausted => rfl
  | @ended r g o b hg hmove =>
    exact (congrArg Bindings.env? hmove.bindings_eq).trans (hafter ⟨r, g⟩ [])
  | @failed r g e b hg hmove =>
    exact (congrArg Bindings.env? hmove.bindings_eq).trans (hafter ⟨r, g⟩ [])
  | @step r r' g as result hg hmove hrest ih =>
    have hbindings : r'.bindings = (⟨r, g⟩ : Application).after := hmove.bindings_eq
    rw [ih, hbindings]
    exact hafter ⟨r, g⟩ as

end Trace

/-! ### Whole runs -/

/-- **What a run comes to**, by the applications that have matched. -/
structure Settles (path : Text) (first : Bindings) (matched : List Application) (o : Outcome)
    (final : Bindings) : Prop where
  /-- None but the last one has had an effect that ends runs. -/
  not_ends : ∀ m ∈ matched.dropLast, m.ends = false
  /-- The flags of the last one decide the rewrite. -/
  rewrite : o.rewrite = matched.getLast?.elim (.uri (uriOf path first)) fun m =>
    m.rule.flags.verdict (uriOf m.path m.after)
  /-- The cookies are those of all of them, in their order. -/
  cookies : o.extras.cookies = matched.filterMap fun m =>
    (m.rule.flags.effectOf? RuleFlag.Kind.cookie).bind Effect.cookie?
  /-- The content type is that of the last one that asks for one. -/
  contentType : o.extras.contentType = (matched.filterMap fun m =>
    (m.rule.flags.effectOf? RuleFlag.Kind.contentType).bind Effect.contentType?).getLast?
  /-- So is the handler. -/
  handler : o.extras.handler = (matched.filterMap fun m =>
    (m.rule.flags.effectOf? RuleFlag.Kind.handler).bind Effect.handler?).getLast?
  proxy : o.extras.proxy = true ↔ ∃ m, matched.getLast? = some m ∧ m.rule.has .proxy = true
  passThrough : o.extras.passThrough = true ↔ ∃ m ∈ matched, m.rule.has .passThrough = true
  /-- All of them have changed the variables, in their order. -/
  env : final.env? = matched.foldl (fun vars m => m.change vars) first.env?

/-- What is read off all effects of applications that have matched is read off the flags of one
kind. -/
theorem filterMap_effects_of_kind {β : Type} {ms : List Application}
    (hms : ∀ m ∈ ms, m.matched = true) {read : Effect → Option β} {k : RuleFlag.Kind}
    (h : ∀ e b, read e = some b → e.kinds = [k]) :
    (ms.flatMap Application.effects).filterMap read =
      ms.filterMap fun m => (m.rule.flags.effectOf? k).bind read := by
  induction ms with
  | nil => rfl
  | cons m ms ih =>
    have hm := Application.effects_of_matched (hms m List.mem_cons_self)
    rw [List.flatMap_cons, List.filterMap_append, FlagSet.filterMap_effects_of_kind hm h,
      ih fun n hn => hms n (List.mem_cons_of_mem m hn), List.filterMap_cons]
    cases (m.rule.flags.effectOf? k).bind read <;> rfl

/-- An effect that all flags of a kind have, and only these, is one of applications that have
matched if one of their rules carries the flag. -/
theorem mem_effects_iff {ms : List Application} (hms : ∀ m ∈ ms, m.matched = true) {e : Effect}
    {k : RuleFlag.Kind} (hk : e.kinds = [k])
    (h : ∀ f : RuleFlag, f.kind = k → f.effect? = some e) :
    e ∈ ms.flatMap Application.effects ↔ ∃ m ∈ ms, m.rule.has k = true := by
  rw [List.mem_flatMap]
  refine exists_congr fun m => and_congr_right fun hm => ?_
  exact FlagSet.mem_effects_iff (Application.effects_of_matched (hms m hm)) hk h

/-- Only the last one that has matched can carry a proxy flag, since this ends the run. -/
theorem has_proxy_iff {ms : List Application} (hms : ∀ m ∈ ms, m.matched = true)
    (hends : ∀ m ∈ ms.dropLast, m.ends = false) :
    (∃ m ∈ ms, m.rule.has .proxy = true) ↔
      ∃ m, ms.getLast? = some m ∧ m.rule.has .proxy = true := by
  refine ⟨?_, fun ⟨m, hlast, hproxy⟩ => ⟨m, List.mem_of_getLast? hlast, hproxy⟩⟩
  rintro ⟨m, hm, hproxy⟩
  have hflag : ∀ f : RuleFlag, f.kind = .proxy → f.effect? = some .proxy := by
    intro f hf
    cases f <;> cases hf
    rfl
  have heffect : .proxy ∈ m.effects :=
    (FlagSet.mem_effects_iff (Application.effects_of_matched (hms m hm)) rfl hflag).2 hproxy
  have hends' : m.ends = true := List.any_eq_true.2 ⟨.proxy, heffect, rfl⟩
  -- one that has ended the run is not in front of the last one
  cases hlast : ms.getLast? with
  | none =>
    rw [List.getLast?_eq_none_iff.1 hlast] at hm
    simp at hm
  | some l =>
    obtain ⟨earlier, rfl⟩ := List.getLast?_eq_some_iff.1 hlast
    rw [List.dropLast_concat] at hends
    rcases List.mem_append.1 hm with hm | hm
    · exact absurd hends' (by simp [hends m hm])
    · exact ⟨l, rfl, List.mem_singleton.1 hm ▸ hproxy⟩

/-- A run that has an outcome settles it by the applications that have matched. -/
theorem Trace.settles {rules : List GuardedRule} {bound : Nat} {path : Text} {b final : Bindings}
    {as : List Application} {o : Outcome} (h : Trace rules bound (start path b) as (.ok o, final)) :
    Settles path b (as.filter Application.matched) o final := by
  have hms : ∀ m ∈ as.filter Application.matched, m.matched = true := by
    intro m hm
    exact (List.mem_filter.1 hm).2
  -- each field of the extras is read off the effects, and so off the flags of one kind
  have hextras := (h.extras_eq rfl).trans (Extras.foldl_add _ _)
  have hproxy := mem_effects_iff hms (e := .proxy) rfl fun f hf => by cases f <;> cases hf; rfl
  have hpass := mem_effects_iff hms (e := .passThrough) rfl fun f hf => by cases f <;> cases hf; rfl
  exact
    { not_ends := h.not_ends
      rewrite := h.rewrite_eq rfl
      cookies := by
        rw [hextras, ← filterMap_effects_of_kind hms fun e b h => by cases e <;> cases h; rfl]
        rfl
      contentType := by
        rw [hextras, ← filterMap_effects_of_kind hms fun e b h => by cases e <;> cases h; rfl]
        exact Option.or_none
      handler := by
        rw [hextras, ← filterMap_effects_of_kind hms fun e b h => by cases e <;> cases h; rfl]
        exact Option.or_none
      proxy := by
        rw [hextras, ← has_proxy_iff hms h.not_ends, ← hproxy]
        simp [start]
      passThrough := by
        rw [hextras, ← hpass]
        simp [start]
      env := h.env?_eq }

end Run

namespace Scope

/-- **The verdict of a request.** If a request has an outcome, it is that of the applications that
have matched. In which order the flags of their rules have been written does not matter for it: they
are read as the same set. -/
theorem run_settles (s : Scope) (r : Request) (bound : Nat) (b final : Bindings) (o : Outcome)
    (hon : s.engineOn = true) (h : s.run r bound b = (.ok o, final)) :
    Run.Settles r.path b ((s.history r bound b).filter Application.matched) o final ∧
      ∀ (text text' : Text) (flags : FlagSet RuleFlag), FlagSet.Reordered RuleFlag text text' →
        FlagSet.read text = .ok flags → FlagSet.read text' = .ok flags := by
  have htrace := trace hon r bound b
  rw [h] at htrace
  exact ⟨htrace.settles, fun _ _ _ hsame => FlagSet.read_of_reordered hsame⟩

/-- A rule that sets a variable, and a last one that redirects. -/
theorem run_settles_redirect :
    ∃ m o final,
      (MainContext.read
        ("RewriteEngine on\nRewriteRule ^/ /1 [E=a:1]\n" ++
          "RewriteRule ^/1 /2 [L,R=301]").toList).toOption = some m ∧
      (main m).run { method := [], uri := "/".toList } 3 .empty = (.ok o, final) ∧
      o.rewrite = .redirect "/2".toList 301 ∧
      Run.Settles "/".toList .empty
        (((main m).history { method := [], uri := "/".toList } 3 .empty).filter Application.matched)
        o final := by
  have hread : ((MainContext.read
      ("RewriteEngine on\nRewriteRule ^/ /1 [E=a:1]\n" ++
        "RewriteRule ^/1 /2 [L,R=301]").toList).toOption.map
        fun m => ((main m).engineOn,
          ((main m).run { method := [], uri := "/".toList } 3 .empty).1.toOption.map (·.rewrite))) =
      some (true, some (.redirect "/2".toList 301)) := by
    decide +kernel
  obtain ⟨m, hm, hfacts⟩ := Option.map_eq_some_iff.1 hread
  obtain ⟨hon, hrewrite⟩ : _ ∧ _ := by simpa only [Prod.mk.injEq] using hfacts
  cases hrun : (main m).run { method := [], uri := "/".toList } 3 .empty with
  | mk result final =>
    rw [hrun] at hrewrite
    cases result with
    | error e => cases hrewrite
    | ok o =>
      have hsettles :=
        run_settles (main m) { method := [], uri := "/".toList } 3 .empty final o hon hrun
      exact ⟨m, o, final, hm, hrun, Option.some.inj hrewrite, hsettles.1⟩

end Scope

end UrlRewrite
