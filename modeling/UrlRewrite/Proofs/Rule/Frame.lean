import Mathlib.Data.Set.Basic
import UrlRewrite.Proofs.Rule.Tests

/-!
# What applying a rule changes

A rule binds groups before it is known whether it is applied, its conditions bind groups as well,
and its effects come last of all. This module says what is left of this in each of the three ways in
which applying a rule can end: it does not match, it fails, or it matches.

* `Bindings.AgreeOutside` says that bindings have changed for some keys at most. Such changes
  compose, and the changes that bindings know of are such changes.
* `Rule.touched` are the keys that a rule can change at all: the groups of a match, the query, and
  the variable that its flag names (`Rule.envName?`).
* `Rule.Frames` says which ending comes when, and what each of them changes; `Rule.frames` says it
  of all rules that match paths by regular expressions, as all rules that are read do
  (`Rule.pattern_of_build`).

If the conditions refuse the rule, its groups are put back one index after the other. So they are
what they were, whether they had gaps or not.
-/

namespace UrlRewrite

/-! ### Changes of bindings -/

/-- The keys of the groups of a match. -/
def Key.groups (kind : GroupKind) : Set Key := {key | ∃ i < groupLimit, key = .group kind i}

/-- A key is no group of a kind if it differs from each of them. -/
theorem Key.not_mem_groups {kind : GroupKind} {key : Key} :
    key ∉ groups kind ↔ ∀ i < groupLimit, .group kind i ≠ key :=
  ⟨fun h i hi he => h ⟨i, hi, he.symm⟩, fun h ⟨i, hi, he⟩ => h i hi he.symm⟩

namespace Bindings

/-- The bindings `b` and `b'` agree on all keys outside of a set. -/
def AgreeOutside (touched : Set Key) (b b' : Bindings) : Prop :=
  ∀ key ∉ touched, b'.get? key = b.get? key

namespace AgreeOutside

variable {touched more : Set Key} {b b' b'' : Bindings} {key : Key}

theorem refl (touched : Set Key) (b : Bindings) : AgreeOutside touched b b := fun _ _ => rfl

theorem trans (h : AgreeOutside touched b b') (h' : AgreeOutside touched b' b'') :
    AgreeOutside touched b b'' :=
  fun key hkey => (h' key hkey).trans (h key hkey)

theorem mono (h : AgreeOutside touched b b') (hsub : touched ⊆ more) : AgreeOutside more b b' :=
  fun key hkey => h key fun hmem => hkey (hsub hmem)

/-- Setting a key touches nothing else. -/
theorem set (hkey : key ∈ touched) (value : Text) : AgreeOutside touched b (b.set key value) := by
  intro k hk
  rw [get?_set, if_neg]
  rintro rfl
  exact hk hkey

theorem unset (hkey : key ∈ touched) : AgreeOutside touched b (b.unset key) := by
  intro k hk
  rw [get?_unset, if_neg]
  rintro rfl
  exact hk hkey

/-- Changes one after the other touch no more than each of them does. -/
theorem foldl {α : Type} {f : Bindings → α → Bindings} {xs : List α}
    (hf : ∀ x ∈ xs, ∀ b, AgreeOutside touched b (f b x)) :
    AgreeOutside touched b (xs.foldl f b) := by
  induction xs generalizing b with
  | nil => exact refl touched b
  | cons x xs ih =>
    exact (hf x List.mem_cons_self b).trans (ih fun y hy => hf y (List.mem_cons_of_mem x hy))

/-- Groups are the same if none of them is touched. -/
theorem groups_eq {kind : GroupKind} (h : AgreeOutside touched b b')
    (hkind : ∀ i < groupLimit, .group kind i ∉ touched) : b'.groups kind = b.groups kind := by
  rw [groups, groups]
  exact List.map_congr_left fun i hi => h _ (hkind i (List.mem_range.1 hi))

end AgreeOutside

end Bindings

/-! ### What flags of a rule ask for -/

namespace RedirectArgument

/-- A name that no status code goes by, in any case. -/
def IsUnknown (name : Text) : Prop :=
  ∀ word ∈ ["permanent", "temp", "seeother"], Text.sameAsciiCase word.toList name = false

/-- An unknown name of a status is an error. -/
theorem status_named_of_isUnknown {name : Text} (h : IsUnknown name) :
    (named name).status = .error (.unknownRedirect name) := by
  have hrow : namedCodes.find? (fun row => Text.sameAsciiCase row.1.toList name) = none := by
    rw [List.find?_eq_none]
    intro row hmem
    have hword : row.1 ∈ ["permanent", "temp", "seeother"] :=
      List.mem_map_of_mem (f := Prod.fst) hmem
    simp [h row.1 hword]
  rw [status, hrow]

theorem isUnknown_of_status {name : Text} {e : EvalError} (h : (named name).status = .error e) :
    IsUnknown name := by
  rw [status] at h
  split at h
  · cases h
  · rename_i hrow
    intro word hword
    -- the words are those of the rows
    obtain ⟨row, hmem, rfl⟩ := List.mem_map.1 (show word ∈ namedCodes.map Prod.fst from hword)
    exact Bool.not_eq_true _ ▸ List.find?_eq_none.1 hrow row hmem

end RedirectArgument

namespace FlagSet

/-- A flag of a set is the one that is found by its kind. -/
theorem find?_kind_of_mem {F : Type} [FlagFamily F] {s : FlagSet F} {f : F} (hf : f ∈ s.flags) :
    s.find? (FlagFamily.kind f) = some f := by
  rw [flags_eq_filterMap_find?, List.mem_filterMap] at hf
  obtain ⟨k, -, hk⟩ := hf
  rwa [← kind_of_find? hk] at hk

variable {s : FlagSet RuleFlag}

/-- The flags ask for a redirect by a name that no status code goes by. -/
def RedirectsTo (s : FlagSet RuleFlag) (name : Text) : Prop :=
  s.find? RuleFlag.Kind.redirect = some (.redirect (.named name)) ∧ RedirectArgument.IsUnknown name

/-- **Flags fail to have effects** exactly if they ask for a redirect by an unknown name. -/
theorem effects_eq_error_iff {e : EvalError} :
    s.effects = .error e ↔ ∃ name, s.RedirectsTo name ∧ e = .unknownRedirect name := by
  have hforward :
      ∀ e, s.effects = .error e → ∃ name, s.RedirectsTo name ∧ e = .unknownRedirect name := by
    intro e h
    obtain ⟨f, hf, hfails⟩ := exists_error_of_effects h
    obtain ⟨name, rfl, rfl⟩ := RuleFlag.eq_unknownRedirect_of_effect hfails
    refine ⟨name, ⟨find?_kind_of_mem hf, ?_⟩, rfl⟩
    cases hstatus : (RedirectArgument.named name).status with
    | error e => exact RedirectArgument.isUnknown_of_status hstatus
    | ok code => simp [RuleFlag.effect, hstatus, Except.map] at hfails
  refine ⟨hforward e, ?_⟩
  rintro ⟨name, ⟨hfind, hunknown⟩, rfl⟩
  cases heffects : s.effects with
  | error e =>
    -- there is only one flag that redirects, and so only one name
    obtain ⟨name', ⟨hfind', -⟩, rfl⟩ := hforward e heffects
    rw [hfind] at hfind'
    cases hfind'
    rfl
  | ok es =>
    cases hfound : s.flags.mapM RuleFlag.effect with
    | error e => simp [effects, hfound, Except.map] at heffects
    | ok found =>
      obtain ⟨b, hb⟩ := (mapM_eq_ok_iff.1 hfound).1 _ (List.mem_of_find?_eq_some hfind)
      simp [RuleFlag.effect, RedirectArgument.status_named_of_isUnknown hunknown, Except.map] at hb

/-- The effects of flags fail exactly if a redirect has an unknown name. -/
theorem exists_redirectsTo_iff : (∃ name, s.RedirectsTo name) ↔ ∃ e, s.effects = .error e :=
  ⟨fun ⟨_, hname⟩ => ⟨_, effects_eq_error_iff.2 ⟨_, hname, rfl⟩⟩, fun ⟨_, he⟩ =>
    (effects_eq_error_iff.1 he).imp fun _ h => h.1⟩

end FlagSet

/-! ### What a rule can change -/

/-- The variable that an effect changes. -/
def Effect.envName? : Effect → Option Text
  | setEnv name _ => some name
  | unsetEnv name => some name
  | _ => none

namespace Rule

variable {r : Rule} {conditions : List Condition} {path : Text} {b : Bindings}

/-- The variable that the flag of a rule names, to set it or to unset it. -/
def envName? (r : Rule) : Option Text :=
  match r.flags.find? RuleFlag.Kind.env with
  | some (.env (.set name _)) => some name
  | some (.env (.unset name)) => some name
  | _ => none

/-- All keys that applying a rule can change: those of groups, the query, and the variable of its
flag. -/
def touched (r : Rule) : Set Key :=
  Key.groups .rule ∪ Key.groups .condition ∪ {.server .queryString} ∪
    {key | ∃ name, r.envName? = some name ∧ key = .env name}

/-- The effects of a rule change no variable but the one that its flag names. -/
theorem envName?_of_mem_effects {es : List Effect} {e : Effect} {name : Text}
    (hs : r.flags.effects = .ok es) (he : e ∈ es) (hname : e.envName? = some name) :
    r.envName? = some name := by
  rw [FlagSet.effects_eq_filterMap hs, List.mem_filterMap] at he
  obtain ⟨f, hf, heffect⟩ := he
  have hfind := FlagSet.find?_kind_of_mem hf
  have hkind : f.kind = .env := by
    have hmem := RuleFlag.kind_mem_of_effect? heffect
    cases e <;> cases hname <;> simpa [Effect.kinds] using hmem
  cases f with
  | env change =>
    rw [envName?, show r.flags.find? RuleFlag.Kind.env = some (.env change) from hfind]
    cases change <;> cases heffect <;> exact hname
  | _ => cases hkind

/-- An effect touches no more than the variable that it sets. -/
theorem agreeOutside_applyEffect {touched : Set Key} {e : Effect}
    (h : ∀ name, e.envName? = some name → .env name ∈ touched) (b : Bindings) :
    b.AgreeOutside touched (r.applyEffect b e) := by
  cases e with
  | setEnv name value => exact .set (h name rfl) _
  | unsetEnv name => exact .unset (h name rfl)
  | _ => exact .refl touched b

/-- The tests of a rule change groups only. -/
theorem agreeOutside_test :
    b.AgreeOutside (Key.groups .rule ∪ Key.groups .condition) (r.test conditions path b).2 := by
  intro key hkey
  rw [Set.mem_union, not_or] at hkey
  exact get?_test fun kind => by
    cases kind
    · exact Key.not_mem_groups.1 hkey.1
    · exact Key.not_mem_groups.1 hkey.2

/-! ### The three endings -/

/-- The pattern of the rule matches the path. -/
def Matches (r : Rule) (path : Text) (b : Bindings) : Prop :=
  ∃ matched, (r.patternTest path b).result = .ok (true, matched)

/-- What the conditions come to if they are evaluated behind the pattern. -/
def guard (r : Rule) (conditions : List Condition) (path : Text) (b : Bindings) :
    Except EvalError Bool × Bindings :=
  Condition.chain conditions (r.patternTest path b).after

/-- Behind a match of the pattern the conditions decide, and if they refuse the rule its groups are
put back. -/
theorem test_of_matches (hm : r.Matches path b) (conditions : List Condition) :
    r.test conditions path b =
      match r.guard conditions path b with
      | (.ok false, b') => (.ok false, b'.restore .rule (b.groups .rule))
      | (result, b') => (result, b') := by
  obtain ⟨matched, hresult⟩ := hm
  have htest : r.pattern.test (r.has .ignoreCase) .rule path b = .ok (true, matched) := hresult
  have hguard : r.guard conditions path b = Condition.chain conditions matched := by
    rw [guard, PatternTest.after_of_ok _ hresult]
  cases hchain : Condition.chain conditions matched with
  | mk result b' =>
    cases result with
    | error e => simp only [test, htest, hguard, hchain]
    | ok holds => cases holds <;> simp only [test, htest, hguard, hchain]

/-- The pattern of a rule that is read is a regular expression. -/
theorem pattern_of_build {pattern substitution flags : Text}
    (h : build pattern substitution flags = .ok r) :
    ∃ negated regex, r.pattern = .regex negated regex := by
  simp only [build, bind_eq_ok_iff, Except.ok.injEq] at h
  obtain ⟨p, hp, -, -, -, -, -, -, rfl⟩ := h
  rw [Pattern.readRegex] at hp
  cases hread : Regex.read (Pattern.takeNegation pattern).2 with
  | error e => simp [hread, Except.mapError] at hp
  | ok regex =>
    simp only [hread, Except.mapError, Except.ok.injEq] at hp
    exact ⟨_, regex, hp.symm⟩

section Regex

variable {negated : Bool} {regex : Regex} (hpattern : r.pattern = .regex negated regex)

include hpattern

/-- The bindings have no say in whether a regular expression matches. -/
theorem matches_iff :
    r.Matches path b ↔ (regex.match? (r.has .ignoreCase) path).isSome = !negated := by
  rw [Matches, PatternTest.result, patternTest, hpattern, Pattern.test]
  cases regex.match? (r.has .ignoreCase) path <;> cases negated <;> simp

/-- A regular expression that does not match has no groups to bind. -/
theorem test_of_not_matches (hm : ¬ r.Matches path b) :
    r.test conditions path b = (.ok false, b) := by
  rw [matches_iff hpattern] at hm
  rw [test, hpattern, Pattern.test]
  cases hmatch : regex.match? (r.has .ignoreCase) path <;> cases negated <;> simp_all

end Regex

/-- **The endings** of applying a rule: whether its pattern matches the path, what the conditions
come to and what the flags ask for, and what comes of it. -/
inductive Ending (r : Rule) (conditions : List Condition) (path : Text) (b : Bindings) :
    Except EvalError RuleOutcome → Prop
  | missed (hm : ¬ r.Matches path b) : Ending r conditions path b (.ok ⟨path, false, []⟩)
  | refused (hm : r.Matches path b) (hguard : (r.guard conditions path b).1 = .ok false) :
    Ending r conditions path b (.ok ⟨path, false, []⟩)
  | conditionFailed {e : EvalError} (hm : r.Matches path b)
      (hguard : (r.guard conditions path b).1 = .error e) :
    Ending r conditions path b (.error e)
  | flagsFailed {e : EvalError} (hm : r.Matches path b)
      (hguard : (r.guard conditions path b).1 = .ok true) (heffects : r.flags.effects = .error e) :
      Ending r conditions path b (.error e)
  | matched {o : RuleOutcome} (hm : r.Matches path b)
      (hguard : (r.guard conditions path b).1 = .ok true)
      (heffects : r.flags.effects = .ok o.effects) (ho : o.matched = true) :
      Ending r conditions path b (.ok o)

/-- Every application of a rule that is a regular expression has one of the endings. -/
theorem ending {negated : Bool} {regex : Regex} (hpattern : r.pattern = .regex negated regex)
    (conditions : List Condition) (path : Text) (b : Bindings) :
    r.Ending conditions path b (r.apply conditions path b).1 := by
  by_cases hm : r.Matches path b
  · have htest := test_of_matches hm conditions
    cases hguard : r.guard conditions path b with
    | mk result b' =>
      have hfst : (r.guard conditions path b).1 = result := by rw [hguard]
      rw [hguard] at htest
      rw [apply, htest]
      cases result with
      | error e => exact .conditionFailed hm hfst
      | ok holds =>
        cases holds with
        | false => exact .refused hm hfst
        | true =>
          cases heffects : r.flags.effects with
          | error e => exact .flagsFailed hm hfst heffects
          | ok es => exact .matched hm hfst heffects rfl
  · rw [apply, test_of_not_matches hpattern hm]
    exact .missed hm

namespace Ending

variable {result : Except EvalError RuleOutcome} (h : r.Ending conditions path b result)

include h

/-- A rule misses exactly if its pattern does not match or its conditions do not hold. -/
theorem unmatched_iff : (∃ o, result = .ok o ∧ o.matched = false) ↔
    ¬ r.Matches path b ∨ (r.guard conditions path b).1 = .ok false := by
  cases h <;> simp [*]

/-- A rule matches exactly if its pattern and its conditions do and its flags have effects. -/
theorem matched_iff : (∃ o, result = .ok o ∧ o.matched = true) ↔
    r.Matches path b ∧ (r.guard conditions path b).1 = .ok true ∧ ¬ ∃ name,
      r.flags.RedirectsTo name := by
  rw [FlagSet.exists_redirectsTo_iff]
  cases h <;> simp [*]

/-- A rule fails exactly if a condition does, or if its flags have no effects. -/
theorem error_iff {e : EvalError} : result = .error e ↔
    r.Matches path b ∧ ((r.guard conditions path b).1 = .error e ∨
      (r.guard conditions path b).1 = .ok true ∧ ∃ name, r.flags.RedirectsTo name ∧
      e = .unknownRedirect name) := by
  rw [← FlagSet.effects_eq_error_iff]
  cases h <;> simp [*]

/-- What has not matched is returned as it was. -/
theorem eq_of_unmatched {o : RuleOutcome} (ho : result = .ok o) (hmatched : o.matched = false) :
    result = .ok ⟨path, false, []⟩ := by
  cases h with
  | missed => rfl
  | refused => rfl
  | conditionFailed => cases ho
  | flagsFailed => cases ho
  | matched _ _ _ htrue =>
    cases ho
    rw [htrue] at hmatched
    cases hmatched

end Ending

/-- Behind its tests, a rule that matches changes the query and the variable of its flag only. -/
theorem agreeOutside_rewrite {es : List Effect} (hs : r.flags.effects = .ok es) (path : Text)
    (b : Bindings) :
    b.AgreeOutside r.touched (r.rewrite path es b).2 := by
  have hquery : .server .queryString ∈ r.touched := Or.inl (Or.inr rfl)
  have hvariable : ∀ name, r.envName? = some name → .env name ∈ r.touched :=
    fun name hname => Or.inr ⟨name, hname, rfl⟩
  refine (Bindings.AgreeOutside.set hquery _).trans (.foldl fun e he b => ?_)
  exact agreeOutside_applyEffect
    (fun name hname => hvariable name (envName?_of_mem_effects hs he hname)) b

/-- A rule that its conditions refuse has changed groups of conditions only. -/
theorem agreeOutside_refused (hm : r.Matches path b)
    (hguard : (r.guard conditions path b).1 = .ok false) :
    b.AgreeOutside (Key.groups .condition) (r.test conditions path b).2 := by
  have hsnd : (r.test conditions path b).2 =
      (r.guard conditions path b).2.restore .rule (b.groups .rule) := by
    rw [test_of_matches hm conditions]
    cases hpair : r.guard conditions path b with
    | mk result b' =>
      obtain rfl : result = .ok false := by rwa [hpair] at hguard
      rfl
  intro key hkey
  by_cases hrule : key ∈ Key.groups .rule
  · -- the groups of rules are put back, one by one
    obtain ⟨i, hi, rfl⟩ := hrule
    rw [hsnd, Bindings.get?_restore, if_pos hi]
  · exact agreeOutside_test key fun hmem => hmem.elim hrule hkey

/-- A rule that fails has changed groups only. -/
theorem agreeOutside_failed {e : EvalError} (h : (r.apply conditions path b).1 = .error e) :
    b.AgreeOutside (Key.groups .rule ∪ Key.groups .condition) (r.apply conditions path b).2 := by
  rw [snd_apply_of_not_matched fun o ho => by rw [h] at ho; cases ho]
  exact agreeOutside_test

/-- Whatever comes of a rule, it has changed none but its own keys. -/
theorem agreeOutside_apply : b.AgreeOutside r.touched (r.apply conditions path b).2 := by
  have htest : b.AgreeOutside r.touched (r.test conditions path b).2 :=
    agreeOutside_test.mono fun _ hkey => Or.inl (Or.inl hkey)
  -- only a rule that matches goes on behind its tests
  by_cases hm : ∃ o, (r.apply conditions path b).1 = .ok o ∧ o.matched = true
  · obtain ⟨o, ho, hmatched⟩ := hm
    obtain ⟨b₁, hb₁, heffects, hrewrite⟩ := apply_matched (Prod.ext ho rfl) hmatched
    rw [hb₁] at htest
    have hrest := agreeOutside_rewrite heffects path b₁
    rw [hrewrite] at hrest
    exact htest.trans hrest
  · rw [snd_apply_of_not_matched fun o ho => Bool.eq_false_iff.2 fun hmatched =>
      hm ⟨o, ho, hmatched⟩]
    exact htest

/-- **How applying a rule can end**, and what it has changed then. -/
structure Frames (r : Rule) (conditions : List Condition) (path : Text) (b : Bindings) : Prop where
  /-- If the pattern does not match, nothing has changed. -/
  missed : ¬ r.Matches path b → r.apply conditions path b = (.ok ⟨path, false, []⟩, b)
  /-- If it matches and the conditions refuse the rule, the path is returned as it is and without
  effects. No more than groups of conditions have changed, and all groups of rules are what they
  were. -/
  refused : r.Matches path b → (r.guard conditions path b).1 = .ok false →
    (r.apply conditions path b).1 = .ok ⟨path, false, []⟩ ∧
      b.AgreeOutside (Key.groups .condition) (r.apply conditions path b).2 ∧
      (r.apply conditions path b).2.groups .rule = b.groups .rule
  /-- The rule does not match in these two cases only. -/
  unmatched_iff : (∃ o, (r.apply conditions path b).1 = .ok o ∧ o.matched = false) ↔
    ¬ r.Matches path b ∨ (r.guard conditions path b).1 = .ok false
  /-- The rule fails if its pattern matches and a condition fails, or if all of this holds and its
  flags ask for a redirect by an unknown name. -/
  error_iff : ∀ e, (r.apply conditions path b).1 = .error e ↔
    r.Matches path b ∧ ((r.guard conditions path b).1 = .error e ∨
      (r.guard conditions path b).1 = .ok true ∧ ∃ name, r.flags.RedirectsTo name ∧
      e = .unknownRedirect name)
  /-- If it fails, no more than groups have changed. -/
  failed : ∀ e, (r.apply conditions path b).1 = .error e →
    b.AgreeOutside (Key.groups .rule ∪ Key.groups .condition) (r.apply conditions path b).2
  /-- The rule matches in all other cases. -/
  matched_iff : (∃ o, (r.apply conditions path b).1 = .ok o ∧ o.matched = true) ↔
    r.Matches path b ∧ (r.guard conditions path b).1 = .ok true ∧ ¬ ∃ name, r.flags.RedirectsTo name
  /-- Whatever comes of it, only some groups, the query and the variable of the flag have
  changed. -/
  others : b.AgreeOutside r.touched (r.apply conditions path b).2

/-- **The frame of a rule.** Applying a rule that matches paths by a regular expression ends in one
of three ways, and in each of them it changes no more than belongs to it, whatever the bindings are
in front of it. -/
theorem frames (r : Rule) (negated : Bool) (regex : Regex)
    (hpattern : r.pattern = .regex negated regex) (conditions : List Condition) (path : Text)
    (b : Bindings) : r.Frames conditions path b where
  missed hm := by rw [apply, test_of_not_matches hpattern hm]
  refused hm hguard := by
    have hending := ending hpattern conditions path b
    obtain ⟨o, ho, hmatched⟩ := hending.unmatched_iff.2 (.inr hguard)
    have hagree := agreeOutside_refused hm hguard
    rw [← snd_apply_of_not_matched fun o' ho' => by
      rw [ho] at ho'; cases ho'; exact hmatched] at hagree
    -- the groups of rules are none of those of conditions
    exact ⟨hending.eq_of_unmatched ho hmatched, hagree, hagree.groups_eq fun i _ hmem => by
      obtain ⟨j, -, hkey⟩ := hmem
      cases hkey⟩
  unmatched_iff := (ending hpattern conditions path b).unmatched_iff
  error_iff _ := (ending hpattern conditions path b).error_iff
  failed _ := agreeOutside_failed
  matched_iff := (ending hpattern conditions path b).matched_iff
  others := agreeOutside_apply

/-- A rule that its second condition refuses when the first one has bound groups, in front of groups
with gaps. -/
theorem frames_of_refused :
    ∃ r first second, build "^/(.+)".toList "/profile".toList [] = .ok r ∧
      Condition.build "$1".toList "^1(.)".toList [] = .ok first ∧
      Condition.build "$1".toList "!^12$".toList [] = .ok second ∧
      (r.apply [first, second] "/12".toList (Bindings.empty.set (.group .rule 5) "x".toList)).1 =
        .ok ⟨"/12".toList, false, []⟩ ∧
      (r.apply [first, second] "/12".toList (Bindings.empty.set (.group .rule 5) "x".toList)).2.get?
        (.group .condition 1) = some "2".toList ∧
      (r.apply [first, second] "/12".toList
        (Bindings.empty.set (.group .rule 5) "x".toList)).2.groups .rule =
        (Bindings.empty.set (.group .rule 5) "x".toList).groups .rule := by
  generalize hb : Bindings.empty.set (.group .rule 5) "x".toList = b
  have hread : ((build "^/(.+)".toList "/profile".toList []).toOption.bind fun r =>
      (Condition.build "$1".toList "^1(.)".toList []).toOption.bind fun first =>
      (Condition.build "$1".toList "!^12$".toList []).toOption.map fun second =>
        ((r.patternTest "/12".toList b).result.toOption.map (·.1),
          (r.guard [first, second] "/12".toList b).1.toOption,
          (r.apply [first, second] "/12".toList b).2.get? (.group .condition 1))) =
      some (some true, some false, some "2".toList) := by
    subst hb
    decide +kernel
  obtain ⟨r, hr, hread⟩ := Option.bind_eq_some_iff.1 hread
  obtain ⟨first, hfirst, hread⟩ := Option.bind_eq_some_iff.1 hread
  obtain ⟨second, hsecond, hfacts⟩ := Option.map_eq_some_iff.1 hread
  obtain ⟨hmatches, hguard, hgroup⟩ : _ ∧ _ ∧ _ := by simpa only [Prod.mk.injEq] using hfacts
  have hr := eq_ok_of_toOption hr
  -- a rule that has been built has a regular expression, as the law asks for
  obtain ⟨negated, regex, hpattern⟩ := pattern_of_build hr
  obtain ⟨⟨holds, matched⟩, hresult, rfl⟩ := Option.map_eq_some_iff.1 hmatches
  have hframes := frames r negated regex hpattern [first, second] "/12".toList b
  obtain ⟨hfst, -, hgroups⟩ :=
    hframes.refused ⟨matched, eq_ok_of_toOption hresult⟩ (eq_ok_of_toOption hguard)
  exact ⟨r, first, second, hr, eq_ok_of_toOption hfirst, eq_ok_of_toOption hsecond, hfst,
    hgroup, hgroups⟩

end Rule

end UrlRewrite
