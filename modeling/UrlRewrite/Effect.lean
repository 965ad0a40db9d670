import UrlRewrite.Cookie
import UrlRewrite.EvalError
import UrlRewrite.Flag.Rule

/-!
# Effects

What a rule does, apart from rewriting the path, when it matches. Flags that only change how a rule
matches or what it substitutes have no effect of their own.
-/

namespace UrlRewrite

/-- An effect of a rule that has matched. -/
inductive Effect where
  | chain
  | last
  | endRun
  | next (most : Option Nat)
  | skip (n : Nat)
  | redirect (code : Nat)
  | status (code : Nat)
  | setEnv (name value : Text)
  | unsetEnv (name : Text)
  | cookie (c : Cookie)
  | contentType (name : Text)
  | handler (name : Text)
  | proxy
  | passThrough
deriving DecidableEq, Repr

namespace Effect

def status? : Effect → Option Nat
  | status code => some code
  | _ => none

def redirect? : Effect → Option Nat
  | redirect code => some code
  | _ => none

def next? : Effect → Option (Option Nat)
  | next most => some most
  | _ => none

def skip? : Effect → Option Nat
  | skip n => some n
  | _ => none

def cookie? : Effect → Option Cookie
  | cookie c => some c
  | _ => none

def contentType? : Effect → Option Text
  | contentType name => some name
  | _ => none

def handler? : Effect → Option Text
  | handler name => some name
  | _ => none

/-- The kinds of the flags that can have the effect. -/
def kinds : Effect → List RuleFlag.Kind
  | chain => [.chain]
  | last => [.last]
  | endRun => [.endRun]
  | next _ => [.next]
  | skip _ => [.skip]
  | redirect _ => [.redirect]
  | status _ => [.forbidden, .gone, .redirect]
  | setEnv _ _ => [.env]
  | unsetEnv _ => [.env]
  | cookie _ => [.cookie]
  | contentType _ => [.contentType]
  | handler _ => [.handler]
  | proxy => [.proxy]
  | passThrough => [.passThrough]

end Effect

namespace CookieFields

/-- Whether an argument switches an attribute on. -/
def isOn (value : Option Text) : Bool :=
  value.any fun v => ["secure", "httponly", "true", "yes", "1"].any fun w =>
    Text.sameAsciiCase v w.toList

/-- The cookie that the arguments describe; an empty domain or path is none. -/
def toCookie (f : CookieFields) : Cookie where
  name := f.name
  value := f.value
  domain := f.domain.filter (!·.isEmpty)
  lifetime := f.lifetime
  path := f.path.filter (!·.isEmpty)
  secure := isOn f.secure
  httpOnly := isOn f.httpOnly

end CookieFields

namespace RedirectArgument

/-- The status codes that have names. -/
def namedCodes : List (String × Nat) := [("permanent", 301), ("temp", 302), ("seeother", 303)]

/-- The status code; a redirect without one is temporary. -/
def status : RedirectArgument → Except EvalError Nat
  | usual => .ok 302
  | code n => .ok n
  | named name =>
    match namedCodes.find? fun row => Text.sameAsciiCase row.1.toList name with
    | some (_, n) => .ok n
    | none => .error (.unknownRedirect name)

end RedirectArgument

/-- Whether a status code is that of a redirection. -/
def isRedirection (code : Nat) : Bool := 300 ≤ code && code < 400

namespace RuleFlag

/-- The effect of a flag, if it has one. A redirect whose status is no redirection only answers with
that status. -/
def effect : RuleFlag → Except EvalError (Option Effect)
  | chain => .ok (some .chain)
  | last => .ok (some .last)
  | endRun => .ok (some .endRun)
  | next most => .ok (some (.next most))
  | skip n => .ok (some (.skip n))
  | forbidden => .ok (some (.status 403))
  | gone => .ok (some (.status 410))
  | redirect argument =>
    argument.status.map fun n => some (if isRedirection n then .redirect n else .status n)
  | env (.set name value) => .ok (some (.setEnv name (value.getD [])))
  | env (.unset name) => .ok (some (.unsetEnv name))
  | cookie fields => .ok (some (.cookie fields.toCookie))
  | contentType name => .ok (some (.contentType name))
  | handler name => .ok (some (.handler name))
  | proxy => .ok (some .proxy)
  | passThrough => .ok (some .passThrough)
  -- the other flags say how a rule is matched and rewritten
  | escapeGroups => .ok none
  | discardPathInfo => .ok none
  | ignoreCase => .ok none
  | noEscape => .ok none
  | noSubrequest => .ok none
  | appendQuery => .ok none
  | discardQuery => .ok none

/-- The effect of a flag, which it does not have either if its redirect goes by an unknown name. -/
def effect? (f : RuleFlag) : Option Effect := f.effect.toOption.join

/-- A redirect has the effect of its status, if that is known. -/
theorem effect?_redirect (argument : RedirectArgument) :
    (redirect argument).effect? =
      argument.status.toOption.map fun n => if isRedirection n then .redirect n else .status n := by
  simp only [effect?, effect]
  cases argument.status <;> rfl

/-- An effect tells the kinds of the flags that can have it. -/
theorem kind_mem_of_effect? {f : RuleFlag} {e : Effect} (h : f.effect? = some e) :
    f.kind ∈ e.kinds := by
  cases f with
  | redirect argument =>
    -- its effect is a redirect or a status, by its code
    rw [effect?_redirect, Option.map_eq_some_iff] at h
    obtain ⟨code, -, rfl⟩ := h
    split <;> simp [kind, Effect.kinds]
  | env change =>
    cases change <;> simp [effect?, effect, Except.toOption] at h <;> subst h <;>
      simp [kind, Effect.kinds]
  | _ => simp [effect?, effect, Except.toOption] at h <;> subst h <;> simp [kind, Effect.kinds]

/-- Only a redirect with an unknown name has no effect but an error. -/
theorem eq_unknownRedirect_of_effect {f : RuleFlag} {e : EvalError} (h : f.effect = .error e) :
    ∃ name, f = .redirect (.named name) ∧ e = .unknownRedirect name := by
  cases f with
  | redirect argument =>
    cases argument with
    | named name =>
      refine ⟨name, rfl, ?_⟩
      simp only [effect, RedirectArgument.status] at h
      cases hrow : RedirectArgument.namedCodes.find? fun row =>
        Text.sameAsciiCase row.1.toList name with
      | none => simpa [hrow, Except.map] using h.symm
      | some row => simp [hrow, Except.map] at h
    | _ => simp [effect, RedirectArgument.status, Except.map] at h
  | env change => cases change <;> simp [effect] at h
  | _ => simp [effect] at h

end RuleFlag

namespace FlagSet

/-- The effects of a set of flags, in the order of their kinds. -/
def effects (s : FlagSet RuleFlag) : Except EvalError (List Effect) :=
  (s.flags.mapM RuleFlag.effect).map (·.filterMap id)

/-- The effect of the flag of a kind. -/
def effectOf? (s : FlagSet RuleFlag) (k : RuleFlag.Kind) : Option Effect :=
  (s.find? k).bind RuleFlag.effect?

variable {s : FlagSet RuleFlag} {es : List Effect}

/-- The effects of a set of flags are those of its flags, one by one. -/
theorem effects_eq_filterMap (h : s.effects = .ok es) :
    es = s.flags.filterMap RuleFlag.effect? := by
  simp only [effects] at h
  cases hfound : s.flags.mapM RuleFlag.effect with
  | error e => simp [hfound, Except.map] at h
  | ok found =>
    obtain ⟨-, rfl⟩ := mapM_eq_ok_iff.1 hfound
    obtain rfl : es = _ := by simpa [hfound, Except.map] using h.symm
    rw [List.filterMap_filterMap]
    rfl

/-- Flags fail to have effects only if one of them does. -/
theorem exists_error_of_effects {e : EvalError} (h : s.effects = .error e) :
    ∃ f ∈ s.flags, f.effect = .error e := by
  cases hfound : s.flags.mapM RuleFlag.effect with
  | error e' =>
    obtain rfl : e' = e := by simpa [effects, hfound, Except.map] using h
    exact exists_error_of_mapM hfound
  | ok found => simp [effects, hfound, Except.map] at h

/-- Flags fail to have effects only by a redirect with an unknown name. -/
theorem eq_unknownRedirect_of_effects {e : EvalError} (h : s.effects = .error e) :
    ∃ name, e = .unknownRedirect name := by
  obtain ⟨f, -, hf⟩ := exists_error_of_effects h
  obtain ⟨name, -, he⟩ := RuleFlag.eq_unknownRedirect_of_effect hf
  exact ⟨name, he⟩

/-- What is read off effects of some kinds of flags only is read off the flags of these kinds. -/
theorem filterMap_effects {β : Type} (hs : s.effects = .ok es) {read : Effect → Option β}
    (ks : List RuleFlag.Kind) (hks : ks.Sublist RuleFlag.Kind.all)
    (h : ∀ e b, read e = some b → e.kinds ⊆ ks) :
    es.filterMap read = ks.filterMap fun k => (s.effectOf? k).bind read := by
  simp only [effectOf?, Option.bind_assoc]
  rw [effects_eq_filterMap hs, List.filterMap_filterMap]
  -- a flag from whose effect something is read is of one of these kinds
  refine s.filterMap_flags hks fun f b hf => ?_
  obtain ⟨e, he, hb⟩ := Option.bind_eq_some_iff.1 hf
  exact h e b hb (RuleFlag.kind_mem_of_effect? he)

/-- What is read off effects of one kind only is read off the flag of this kind. -/
theorem filterMap_effects_of_kind {β : Type} (hs : s.effects = .ok es) {read : Effect → Option β}
    {k : RuleFlag.Kind} (h : ∀ e b, read e = some b → e.kinds = [k]) :
    es.filterMap read = ((s.effectOf? k).bind read).toList := by
  have hk : [k].Sublist RuleFlag.Kind.all := by cases k <;> decide
  rw [filterMap_effects hs [k] hk fun e b hb => (h e b hb).symm ▸ List.Subset.refl [k],
    List.filterMap_cons]
  cases (s.effectOf? k).bind read <;> rfl

/-- An effect that all flags of a kind have, and only these, is among the effects if the kind is
among the flags. -/
theorem mem_effects_iff (hs : s.effects = .ok es) {e : Effect} {k : RuleFlag.Kind}
    (hk : e.kinds = [k]) (h : ∀ f : RuleFlag, f.kind = k → f.effect? = some e) :
    e ∈ es ↔ s.contains k = true := by
  have heffect : ∀ f : RuleFlag, f.effect? = some e ↔ f.kind = k := fun f =>
    ⟨fun hf => by simpa [hk] using RuleFlag.kind_mem_of_effect? hf, h f⟩
  rw [effects_eq_filterMap hs, contains, find?, List.find?_isSome]
  simp only [List.mem_filterMap, heffect]
  exact exists_congr fun f => and_congr_right fun _ => by simp [FlagFamily.kind]

end FlagSet

end UrlRewrite
