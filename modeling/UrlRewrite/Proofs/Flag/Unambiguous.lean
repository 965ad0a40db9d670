import UrlRewrite.Flag.Condition
import UrlRewrite.Flag.Rule
import UrlRewrite.Proofs.Flag.Order

/-!
# Flags are unambiguous

A flag is read by the first kind that recognises it. In both families no text is recognised by more
than one kind, so that it does not matter which kind is tried first. `FlagFamily.Unambiguous` says
so, and what follows: the kinds could be tried in any order, and a text is an unknown flag exactly
if no kind recognises it. What a kind recognises need not be readable. An argument that has no value
is an error of this kind, and no other kind is tried.

It comes from two facts about a family (`FlagFamily.Unambiguous.of_recognises`): a text is
recognised by one kind at most, and a text that is recognised is no unknown flag. Of a flag with an
argument only the word in front of the first equals sign decides the kind. The words of different
kinds differ in more than case, by the simple folding of characters (`RuleFlag.Kind.eq_of_words`,
`ConditionFlag.eq_of_words`); whatever stands behind the equals sign has no say.
-/

namespace UrlRewrite

namespace FlagFamily

variable {F : Type} [FlagFamily F]

/-- The text is written like a flag of the kind. It may still have an argument without a value. -/
def Recognises (k : Kind F) (s : Text) : Prop := ∃ r, read? k s = some r

theorem recognises_iff {k : Kind F} {s : Text} : Recognises k s ↔ (read? k s).isSome = true :=
  Option.isSome_iff_exists.symm

theorem not_recognises_iff {k : Kind F} {s : Text} : ¬ Recognises k s ↔ read? k s = none := by
  rw [recognises_iff, Option.not_isSome_iff_eq_none]

/-- A text that is recognised by one kind only is read by it, wherever in the list it stands. -/
theorem lookUpIn_of_read? {ks : List (Kind F)} {k : Kind F} {s : Text}
    {r : Except FlagError F} (hk : k ∈ ks) (hread : read? k s = some r)
    (hone : ∀ k' ∈ ks, Recognises k' s → k' = k) : lookUpIn ks s = r := by
  obtain ⟨r', hfound⟩ : ∃ r', ks.findSome? (fun k => read? k s) = some r' := by
    rw [← Option.isSome_iff_exists, List.findSome?_isSome_iff]
    exact ⟨k, hk, by rw [hread]; rfl⟩
  -- the kind that is found recognises the text as well
  obtain ⟨k', hk', hread'⟩ := List.exists_of_findSome?_eq_some hfound
  obtain rfl := hone k' hk' ⟨r', hread'⟩
  rw [lookUpIn, hfound, Option.getD_some]
  exact Option.some.inj (hread'.symm.trans hread)

/-- A text that no kind recognises is unknown. -/
theorem lookUpIn_of_not_recognises {ks : List (Kind F)} {s : Text}
    (hnone : ∀ k ∈ ks, ¬ Recognises k s) :
    lookUpIn ks s = .error (.unknown (title F) s) := by
  rw [lookUpIn, List.findSome?_eq_none_iff.2 fun k hk => not_recognises_iff.1 (hnone k hk),
    Option.getD_none]

/-- **Unambiguous flags**, in a family of flags. -/
structure Unambiguous (F : Type) [FlagFamily F] : Prop where
  /-- No text is recognised by two kinds. -/
  one : ∀ (s : Text) (k k' : Kind F), Recognises k s → Recognises k' s → k = k'
  /-- The kind that recognises a text reads it: the flag, or why an argument has no value. -/
  reads : ∀ (s : Text) (k : Kind F) (r : Except FlagError F), read? k s = some r → lookUp s = r
  /-- The order in which the kinds are tried has no say, for no text and in nothing that comes of
  it. -/
  anyOrder : ∀ ks : List (Kind F), ks.Perm kinds → ∀ s, lookUpIn ks s = lookUp s
  /-- A text that no kind recognises is an unknown flag, -/
  unknown :
    ∀ s : Text, (∀ k : Kind F, ¬ Recognises k s) → lookUp (F := F) s = .error (.unknown (title F) s)
  /-- and nothing else is one. -/
  of_unknown : ∀ (s : Text) (family : String) (written : Text),
    lookUp (F := F) s = .error (.unknown family written) → ∀ k : Kind F, ¬ Recognises k s
  /-- There is a flag of every kind to be read. -/
  reached : ∀ k : Kind F, ∃ s f, lookUp (F := F) s = .ok f ∧ kind f = k

/-- A family is unambiguous if a text is recognised by one kind at most, and never as an unknown
flag. -/
theorem Unambiguous.of_recognises (hall : ∀ k, k ∈ kinds (F := F))
    (hone : ∀ (s : Text) (k k' : Kind F), Recognises k s → Recognises k' s → k = k')
    (hknown : ∀ (s : Text) (k : Kind F) (family : String) (written : Text),
      read? k s ≠ some (.error (.unknown family written)))
    (hreached : ∀ k : Kind F, ∃ s f, read? k s = some (.ok f) ∧ kind f = k) : Unambiguous F where
  one := hone
  reads s k r hread := lookUpIn_of_read? (hall k) hread fun k' _ hk' => hone s k' k hk' ⟨r, hread⟩
  anyOrder ks hperm s := by
    by_cases hany : ∃ k : Kind F, Recognises k s
    · obtain ⟨k, r, hread⟩ := hany
      have hsame : ∀ k' : Kind F, Recognises k' s → k' = k :=
        fun k' hk' => hone s k' k hk' ⟨r, hread⟩
      rw [lookUpIn_of_read? (hperm.mem_iff.2 (hall k)) hread fun k' _ => hsame k', lookUp,
        lookUpIn_of_read? (hall k) hread fun k' _ => hsame k']
    · have hnone : ∀ k : Kind F, ¬ Recognises k s := not_exists.1 hany
      rw [lookUpIn_of_not_recognises fun k _ => hnone k, lookUp,
        lookUpIn_of_not_recognises fun k _ => hnone k]
  unknown s hnone := lookUpIn_of_not_recognises fun k _ => hnone k
  of_unknown s family written hunknown k hk := by
    -- the kind would have read the text
    obtain ⟨r, hread⟩ := hk
    have hlook : lookUp s = r := lookUpIn_of_read? (hall k) hread fun k' _ hk' =>
      hone s k' k hk' ⟨r, hread⟩
    rw [← hlook, hunknown] at hread
    exact hknown s k family written hread
  reached k := by
    obtain ⟨s, f, hread, hkind⟩ := hreached k
    exact ⟨s, f, lookUpIn_of_read? (hall k) hread fun k' _ hk' => hone s k' k hk' ⟨_, hread⟩, hkind⟩

/-- Kinds whose words differ in more than case do not share what is written for them. -/
theorem eq_of_isKeyword {K : Type} {words : K → List String}
    (hwords : ∀ k k', ∀ w ∈ words k, ∀ w' ∈ words k',
      w.toList.map simpleFold = w'.toList.map simpleFold → k = k') {k k' : K} {s : Text}
    (h : (words k).any (fun w => Text.isKeyword w.toList s) = true)
    (h' : (words k').any (fun w => Text.isKeyword w.toList s) = true) : k = k' := by
  obtain ⟨w, hw, hkeyword⟩ := List.any_eq_true.1 h
  obtain ⟨w', hw', hkeyword'⟩ := List.any_eq_true.1 h'
  exact hwords k k' w hw w' hw' ((beq_iff_eq.1 hkeyword).symm.trans (beq_iff_eq.1 hkeyword'))

end FlagFamily

open FlagFamily

/-! ### Flags of rules -/

namespace RuleFlag

variable {k k' : Kind} {s : Text} {e : FlagError}

theorem Kind.mem_all (k : Kind) : k ∈ Kind.all := by
  cases k <;> decide

/-- The words of different kinds differ in more than case. -/
theorem Kind.eq_of_words (k k' : Kind) : ∀ w ∈ k.words, ∀ w' ∈ k'.words,
    w.toList.map simpleFold = w'.toList.map simpleFold → k = k' := by
  have hall : ∀ k ∈ Kind.all, ∀ k' ∈ Kind.all, ∀ w ∈ k.words, ∀ w' ∈ k'.words,
      w.toList.map simpleFold = w'.toList.map simpleFold → k = k' := by decide +kernel
  exact hall k k.mem_all k' k'.mem_all

/-- A text stands for a flag of a kind only if its word, in front of the first equals sign, is one
of the kind. -/
theorem isKeyword_of_read? {r : Except FlagError RuleFlag} (h : read? k s = some r) :
    k.words.any (fun w => Text.isKeyword w.toList (cutArgument s).1) = true := by
  rw [read?] at h
  exact (Option.ite_none_right_eq_some.1 h).1

/-- The argument of a flag fails by the value of one of its parts. -/
theorem exists_of_argument {written value : Text} {field : String}
    {read : Text → Except ArgumentError Nat} (h : argument written field value read = .error e) :
    ∃ cause, e = .invalidArgument written field value cause :=
  error_of_mapError h

/-- The arguments of a cookie either come without a lifetime, or they have its digits in the fourth
place. -/
theorem cookieFields?_cases {written : Text} {places : List Text}
    {r : Except FlagError CookieFields} (h : cookieFields? written places = some r) :
    (∃ fields, r = .ok fields ∧ fields.lifetime = none) ∨
      ∃ name value domain digits more,
        places = name :: value :: domain :: digits :: more ∧ name ≠ [] ∧
        isNumber digits = true ∧ more.length ≤ 3 ∧
        r = (argument written "lifetime" digits readLifetime).map fun minutes =>
          ⟨name, value, some domain, some minutes, more[0]?, more[1]?, more[2]?⟩ := by
  rw [cookieFields?.eq_def] at h
  split at h
  · rename_i name value more
    split at h
    · cases h
    · rename_i hname
      split at h
      · -- fewer than four places have no lifetime
        exact .inl ⟨_, (Option.some.inj h).symm, rfl⟩
      · exact .inl ⟨_, (Option.some.inj h).symm, rfl⟩
      · rename_i domain digits more
        split at h
        · cases h
        · rename_i hplaces
          obtain ⟨hdigits, hmore⟩ : isNumber digits = true ∧ more.length ≤ 3 := by
            simpa using hplaces
          refine .inr ⟨name, value, domain, digits, more, rfl, ?_, hdigits, hmore,
            (Option.some.inj h).symm⟩
          simpa using hname
  · cases h

/-- A cookie that cannot be read has an argument that is wrong. -/
theorem exists_of_cookieFields? {written : Text} {places : List Text}
    (h : cookieFields? written places = some (.error e)) :
    ∃ field value cause, e = .invalidArgument written field value cause := by
  -- of the arguments of a cookie only the lifetime can fail
  rcases cookieFields?_cases h with
    ⟨fields, hok, -⟩ | ⟨name, value, domain, digits, more, -, -, -, -, hr⟩
  · cases hok
  · obtain ⟨cause, rfl⟩ := exists_of_argument (error_of_map hr.symm)
    exact ⟨_, _, cause, rfl⟩

/-- A flag with an argument that cannot be read has one that is wrong. -/
theorem exists_of_withArgument? {written value : Text}
    (h : k.withArgument? written value = some (.error e)) :
    ∃ field part cause, e = .invalidArgument written field part cause := by
  -- three kinds read a number from their argument, and a cookie from a part of it
  cases k with
  | cookie =>
    obtain ⟨fields, hfields, hfail⟩ := Option.map_eq_some_iff.1 h
    rw [error_of_map hfail] at hfields
    exact exists_of_cookieFields? hfields
  | next =>
    obtain ⟨-, h⟩ := Option.ite_none_right_eq_some.1 h
    obtain ⟨cause, rfl⟩ := exists_of_argument (error_of_map (Option.some.inj h))
    exact ⟨_, _, cause, rfl⟩
  | skip =>
    obtain ⟨-, h⟩ := Option.ite_none_right_eq_some.1 h
    obtain ⟨cause, rfl⟩ := exists_of_argument (error_of_map (Option.some.inj h))
    exact ⟨_, _, cause, rfl⟩
  | redirect =>
    simp only [Kind.withArgument?] at h
    split at h
    · obtain ⟨cause, rfl⟩ := exists_of_argument (error_of_map (Option.some.inj h))
      exact ⟨_, _, cause, rfl⟩
    · split at h <;> cases h
  | env | handler | contentType =>
    obtain ⟨_, -, h⟩ := Option.map_eq_some_iff.1 h
    cases h
  | _ => cases h

/-- A text that is recognised fails by an argument only. -/
theorem exists_of_read? (h : read? k s = some (.error e)) :
    ∃ field value cause, e = .invalidArgument s field value cause := by
  rw [read?] at h
  obtain ⟨-, h⟩ := Option.ite_none_right_eq_some.1 h
  split at h
  · obtain ⟨f, -, hf⟩ := Option.map_eq_some_iff.1 h
    cases hf
  · exact exists_of_withArgument? h

/-- A text that is a flag of the kind. -/
def Kind.sample (k : Kind) : Text :=
  match k with
  | cookie => "CO=a:b".toList
  | env => "E=a".toList
  | handler => "H=a".toList
  | skip => "S=1".toList
  | contentType => "T=a".toList
  | _ => (k.words.headD "").toList

/-- Every kind reads its sample, as a flag of the kind. -/
theorem exists_read?_sample (k : Kind) : ∃ f, read? k k.sample = some (.ok f) ∧ f.kind = k := by
  have hall : ∀ k ∈ Kind.all, ((read? k k.sample).bind Except.toOption).map kind = some k := by
    decide +kernel
  obtain ⟨f, hf, hkind⟩ := Option.map_eq_some_iff.1 (hall k k.mem_all)
  obtain ⟨r, hr, hf⟩ := Option.bind_eq_some_iff.1 hf
  exact ⟨f, by rw [hr, eq_ok_of_toOption hf], hkind⟩

/-- The flags of rules are unambiguous. -/
theorem unambiguous : Unambiguous RuleFlag :=
  .of_recognises Kind.mem_all
    (fun _ _ _ ⟨_, h⟩ ⟨_, h'⟩ =>
      eq_of_isKeyword Kind.eq_of_words (isKeyword_of_read? h) (isKeyword_of_read? h'))
    (fun _ _ _ _ h => by obtain ⟨_, _, _, he⟩ := exists_of_read? h; cases he)
    fun k => ⟨k.sample, exists_read?_sample k⟩

end RuleFlag

/-! ### Flags of conditions -/

namespace ConditionFlag

theorem mem_all (k : ConditionFlag) : k ∈ all := by
  cases k <;> decide

/-- No word names two flags of conditions, in any case. -/
theorem eq_of_words (k k' : ConditionFlag) : ∀ w ∈ k.words, ∀ w' ∈ k'.words,
    w.toList.map simpleFold = w'.toList.map simpleFold → k = k' := by
  have hall : ∀ k ∈ all, ∀ k' ∈ all, ∀ w ∈ k.words, ∀ w' ∈ k'.words,
      w.toList.map simpleFold = w'.toList.map simpleFold → k = k' := by decide +kernel
  exact hall k k.mem_all k' k'.mem_all

/-- What is recognised is one of the words, and can be read. -/
theorem read?_eq_some_iff {k : ConditionFlag} {s : Text} {r : Except FlagError ConditionFlag} :
    read? k s = some r ↔ k.words.any (fun w => Text.isKeyword w.toList s) = true ∧ r = .ok k := by
  rw [read?, Option.ite_none_right_eq_some, Option.some.injEq, eq_comm (a := r)]

theorem exists_read? (k : ConditionFlag) : ∃ s, read? k s = some (.ok k) := by
  refine ⟨(k.words.headD "").toList, read?_eq_some_iff.2 ⟨?_, rfl⟩⟩
  cases k <;> decide +kernel

/-- The flags of conditions are unambiguous. -/
theorem unambiguous : Unambiguous ConditionFlag :=
  .of_recognises mem_all
    (fun _ _ _ ⟨_, h⟩ ⟨_, h'⟩ =>
      eq_of_isKeyword eq_of_words (read?_eq_some_iff.1 h).1 (read?_eq_some_iff.1 h').1)
    (fun _ _ _ _ h => by cases (read?_eq_some_iff.1 h).2)
    fun k => by
      obtain ⟨s, hs⟩ := exists_read? k
      exact ⟨s, k, hs, rfl⟩

end ConditionFlag

/-- **Flags are unambiguous**, those of rules and those of conditions: a text is recognised by one
kind at most, and nothing depends on the order in which the kinds are tried. -/
theorem FlagFamily.lookUp_unambiguous : Unambiguous RuleFlag ∧ Unambiguous ConditionFlag :=
  ⟨RuleFlag.unambiguous, ConditionFlag.unambiguous⟩

/-- Case is compared by the simple folding: a long `s` is an `s`. -/
example : FlagFamily.lookUp (F := RuleFlag) "ſ=3".toList = .ok (.skip 3) := by decide +kernel

end UrlRewrite
