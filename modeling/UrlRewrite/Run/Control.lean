import UrlRewrite.Effect

/-!
# Control

What the effects of a rule that has matched ask of the run: to end it, to restart it, or to skip
rules. `Control.ofEffects` collects it from the effects, one by one; of several statuses the last
one counts.

The same can be read off the flags of the rule, kind by kind (`FlagSet.control`), since the effects
come in the order of the kinds (`FlagSet.ofEffects_eq_control`). So it does not matter in which
order the flags have been written.
-/

namespace UrlRewrite

/-- What the effects of a rule ask of the run. Of several statuses the last one counts. -/
structure Control where
  status : Option Nat := none
  redirect : Option Nat := none
  proxy : Bool := false
  endRun : Bool := false
  last : Bool := false
  /-- Whether to restart, and how often at most if the rule says so. -/
  next : Option (Option Nat) := none
  skip : Nat := 0
deriving DecidableEq, Repr

namespace Control

/-- The control after one more effect. -/
def add (c : Control) : Effect → Control
  | .status code => { c with status := some code }
  | .redirect code => { c with redirect := some code }
  | .proxy => { c with proxy := true }
  | .endRun => { c with endRun := true }
  | .last => { c with last := true }
  | .next most => { c with next := some most }
  | .skip n => { c with skip := c.skip + n }
  | _ => c

def ofEffects (effects : List Effect) : Control := effects.foldl add {}

theorem getLast?_cons_or {α : Type} (a : α) (l : List α) (o : Option α) :
    ((a :: l).getLast?).or o = l.getLast?.or (some a) := by
  rw [List.getLast?_cons]
  cases l.getLast? <;> rfl

/-- The control after a list of effects, field by field. -/
theorem foldl_add (c : Control) (es : List Effect) :
    es.foldl add c =
      { status := (es.filterMap Effect.status?).getLast?.or c.status
        redirect := (es.filterMap Effect.redirect?).getLast?.or c.redirect
        proxy := decide (.proxy ∈ es) || c.proxy
        endRun := decide (.endRun ∈ es) || c.endRun
        last := decide (.last ∈ es) || c.last
        next := (es.filterMap Effect.next?).getLast?.or c.next
        skip := (es.filterMap Effect.skip?).foldl (· + ·) c.skip } := by
  -- what has been there counts only where no effect behind it says otherwise
  induction es generalizing c with
  | nil => simp
  | cons e es ih =>
    rw [List.foldl_cons, ih]
    cases e <;>
      simp [add, Effect.status?, Effect.redirect?, Effect.next?, Effect.skip?, List.filterMap_cons,
        getLast?_cons_or]

end Control

namespace FlagSet

open RuleFlag

/-- The status code that a redirect flag asks for, if it does not go by an unknown name. -/
def redirectCode? (s : FlagSet RuleFlag) : Option Nat :=
  match s.find? Kind.redirect with
  | some (.redirect argument) => argument.status.toOption
  | _ => none

/-- Where to redirect to: the code of a redirection. -/
def redirect? (s : FlagSet RuleFlag) : Option Nat :=
  s.redirectCode?.filter isRedirection

/-- The status to answer with: that of a redirect flag whose code is no redirection, else that of a
resource that is gone, else that of a forbidden one. -/
def status? (s : FlagSet RuleFlag) : Option Nat :=
  (s.redirectCode?.filter (!isRedirection ·)).or
    ((if s.contains Kind.gone then some 410 else none).or
      (if s.contains Kind.forbidden then some 403 else none))

/-- Whether to restart, and how often at most if the flag says so. -/
def next? (s : FlagSet RuleFlag) : Option (Option Nat) :=
  match s.find? Kind.next with
  | some (.next most) => some most
  | _ => none

/-- How many rules to skip. -/
def skip (s : FlagSet RuleFlag) : Nat :=
  match s.find? Kind.skip with
  | some (.skip n) => n
  | _ => 0

/-- What the flags of a rule ask of the run. -/
def control (s : FlagSet RuleFlag) : Control where
  status := s.status?
  redirect := s.redirect?
  proxy := s.contains Kind.proxy
  endRun := s.contains Kind.endRun
  last := s.contains Kind.last
  next := s.next?
  skip := s.skip

variable {s : FlagSet RuleFlag} {es : List Effect}

/-- The effect of the redirect flag. -/
theorem effectOf?_redirect (s : FlagSet RuleFlag) :
    s.effectOf? Kind.redirect =
      s.redirectCode?.map fun n => if isRedirection n then .redirect n else .status n := by
  rw [effectOf?]
  cases hf : s.find? Kind.redirect with
  | none => simp [redirectCode?, hf]
  | some f =>
    obtain ⟨argument, rfl⟩ : ∃ argument, f = .redirect argument := by
      have hkind : f.kind = .redirect := kind_of_find? hf
      cases f <;> simp_all [kind]
    simp [redirectCode?, hf, effect?_redirect]

/-- There is one effect at most that redirects, and the flags tell its status. -/
theorem filterMap_redirect? (hs : s.effects = .ok es) :
    es.filterMap Effect.redirect? = s.redirect?.toList := by
  rw [filterMap_effects_of_kind hs (k := .redirect) fun e b h => by cases e <;> cases h; rfl,
    effectOf?_redirect, redirect?]
  cases s.redirectCode? with
  | none => rfl
  | some code => cases hin : isRedirection code <;> simp [hin, Option.filter, Effect.redirect?]

theorem eq_next_of_find? {f : RuleFlag} (h : s.find? Kind.next = some f) :
    ∃ most, f = .next most := by
  have hkind : f.kind = .next := kind_of_find? h
  cases f <;> simp_all [kind]

/-- There is one effect at most that restarts, and the flags tell its bound. -/
theorem filterMap_next? (hs : s.effects = .ok es) : es.filterMap Effect.next? = s.next?.toList := by
  rw [filterMap_effects_of_kind hs (k := .next) fun e b h => by cases e <;> cases h; rfl, effectOf?]
  cases hf : s.find? Kind.next with
  | none => simp [hf, next?]
  | some f =>
    obtain ⟨most, rfl⟩ := eq_next_of_find? hf
    simp [hf, next?, effect?, effect, Except.toOption, Effect.next?]

/-- What the effects skip is what the flag for it says. -/
theorem foldl_filterMap_skip? (hs : s.effects = .ok es) :
    (es.filterMap Effect.skip?).foldl (· + ·) 0 = s.skip := by
  rw [filterMap_effects_of_kind hs (k := .skip) fun e b h => by cases e <;> cases h; rfl, effectOf?]
  cases hf : s.find? Kind.skip with
  | none => simp [hf, skip]
  | some f =>
    obtain ⟨n, rfl⟩ : ∃ n, f = .skip n := by
      have hkind : f.kind = .skip := kind_of_find? hf
      cases f <;> simp_all [kind]
    simp [hf, skip, effect?, effect, Except.toOption, Effect.skip?]

/-- A bound on restarts is told by the flag for it only. -/
theorem next?_isSome (s : FlagSet RuleFlag) : s.next?.isSome = s.contains Kind.next := by
  cases hf : s.find? Kind.next with
  | none => simp [hf, next?, contains]
  | some f =>
    obtain ⟨most, rfl⟩ := eq_next_of_find? hf
    simp [hf, next?, contains]

/-- The effect of the flag of a kind, if all flags of this kind have the same. -/
theorem effectOf?_of_const {k : Kind} {e : Effect}
    (h : ∀ f : RuleFlag, f.kind = k → f.effect? = some e) :
    s.effectOf? k = if s.contains k then some e else none := by
  rw [effectOf?, contains]
  cases hf : s.find? k with
  | none => rfl
  | some f => exact h f (kind_of_find? hf)

/-- Of the effects that answer with a status, the last one counts. -/
theorem getLast?_filterMap_status? (hs : s.effects = .ok es) :
    (es.filterMap Effect.status?).getLast? = s.status? := by
  have hforbidden : s.effectOf? Kind.forbidden =
      if s.contains Kind.forbidden then some (.status 403) else none :=
    effectOf?_of_const fun f hf => by cases f <;> cases hf; rfl
  have hgone : s.effectOf? Kind.gone =
      if s.contains Kind.gone then some (.status 410) else none :=
    effectOf?_of_const fun f hf => by cases f <;> cases hf; rfl
  have hredirect : (s.effectOf? Kind.redirect).bind Effect.status? =
      s.redirectCode?.filter (!isRedirection ·) := by
    rw [effectOf?_redirect]
    cases s.redirectCode? with
    | none => rfl
    | some code => cases hin : isRedirection code <;> simp [hin, Option.filter, Effect.status?]
  -- three kinds of flags can have a status, and the effects come in the order of these kinds
  rw [filterMap_effects hs [.forbidden, .gone, .redirect] (by decide)
    (by intro e b h; cases e <;> simp_all [Effect.status?, Effect.kinds])]
  simp only [List.filterMap_cons, hforbidden, hgone, hredirect, status?]
  cases s.redirectCode?.filter (!isRedirection ·) <;> cases s.contains Kind.gone <;>
    cases s.contains Kind.forbidden <;> rfl

/-- The effects of a set of flags ask of the run what the flags ask of it. -/
theorem ofEffects_eq_control (hs : s.effects = .ok es) : Control.ofEffects es = s.control := by
  -- a mark is set if the flag is carried
  have hplain : ∀ (e : Effect) (k : Kind), e.kinds = [k] →
      (∀ f : RuleFlag, f.kind = k → f.effect? = some e) →
      decide (e ∈ es) = s.contains k := by
    intro e k hk h
    rw [Bool.eq_iff_iff, decide_eq_true_iff]
    exact mem_effects_iff hs hk h
  rw [Control.ofEffects, Control.foldl_add, getLast?_filterMap_status? hs, filterMap_redirect? hs,
    filterMap_next? hs, foldl_filterMap_skip? hs,
    hplain .proxy .proxy rfl fun f hf => by cases f <;> cases hf; rfl,
    hplain .endRun .endRun rfl fun f hf => by cases f <;> cases hf; rfl,
    hplain .last .last rfl fun f hf => by cases f <;> cases hf; rfl]
  cases hr : s.redirect? <;> cases hn : s.next? <;> simp [control, hr, hn]

end FlagSet

end UrlRewrite
