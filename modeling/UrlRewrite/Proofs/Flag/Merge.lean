import UrlRewrite.Flag.Condition
import UrlRewrite.Proofs.Flag.Order
import UrlRewrite.Proofs.Text.Words
import UrlRewrite.Rule

/-!
# Lists of flags put together

Two lists of flags with a comma between them are one list. It is read if both are, and gives the
flags of the first one with those of the second one in the place of flags of the same kinds
(`FlagSet.override`). A flag is put in place as a whole: of its arguments none is kept
(`FlagSet.find?_override`).

`FlagSet.ListLaws` says what this comes to for the lists that a directive can carry: writing a list
twice, putting its entries in another order and putting blanks or commas around them changes
nothing. Everything is derived from two facts:

* the entries of two lists are those of the list that both make
  (`FlagFamily.writtenFlags_append_cons`);
* a set of flags is determined by what it has of each kind (`FlagSet.eq_of_find?_eq`), which is the
  last flag of this kind in the list.

Since a set has its flags in the order of the kinds, so do the effects of a rule come, whatever the
order is in which the flags are written (`FlagSet.effects_eq_filterMap_effectOf?`).
-/

namespace UrlRewrite

/-! ### Blanks and commas in a list -/

namespace Text

variable {pad s : Text}

/-- Blanks in front of a text are trimmed. -/
theorem trim_append_of_isBlank (h : ∀ c ∈ pad, isBlank c = true) (s : Text) :
    trim (pad ++ s) = trim s := by
  rw [trim, trim, trimStart, trimStart, List.dropWhile_append_of_pos h]

theorem trim_of_isBlank (h : ∀ c ∈ pad, isBlank c = true) : trim pad = [] := by
  have hpad := trim_append_of_isBlank h []
  rwa [List.append_nil] at hpad

/-- So are blanks behind it. -/
theorem trim_append_of_isBlank_right (s : Text) (h : ∀ c ∈ pad, isBlank c = true) :
    trim (s ++ pad) = trim s := by
  induction s with
  | nil => exact trim_of_isBlank h
  | cons c s ih =>
    cases hc : isBlank c with
    | true => rw [List.cons_append, trim_cons_of_isBlank hc, trim_cons_of_isBlank hc, ih]
    | false =>
      -- the text begins here, so that only its end is left to be trimmed
      have hfront : ∀ t : Text, trimStart (c :: t) = c :: t := fun t =>
        List.dropWhile_cons_of_neg (by simp [hc])
      rw [List.cons_append, trim, trim, hfront, hfront, ← List.cons_append,
        trimEnd_append_of_isBlank h]

end Text

namespace FlagFamily

/-- The entries of two lists are those of the list that both make. -/
theorem writtenFlags_append_cons (a b : Text) :
    writtenFlags (a ++ ',' :: b) = writtenFlags a ++ writtenFlags b := by
  simp only [writtenFlags, Text.splitAll_append_cons, List.map_append, List.filter_append]

/-- Without a comma, one flag is written at most. -/
theorem writtenFlags_of_not_mem {s : Text} (h : ',' ∉ s) :
    writtenFlags s = [Text.trim s].filter fun w => !w.isEmpty := by
  rw [writtenFlags, Text.splitAll_of_not_mem h]
  rfl

/-- Blanks alone are no entry. -/
theorem writtenFlags_of_isBlank {pad : Text} (h : ∀ c ∈ pad, isBlank c = true) :
    writtenFlags pad = [] := by
  have hcomma : ',' ∉ pad := fun hmem => absurd (h ',' hmem) (by decide)
  rw [writtenFlags_of_not_mem hcomma, Text.trim_of_isBlank h]
  rfl

/-- What a list ends with, behind its last comma. -/
def lastPlace (a : Text) : Text := (a.reverse.takeWhile (· != ',')).reverse

/-- What a list begins with, in front of its first comma. -/
def firstPlace (b : Text) : Text := b.takeWhile (· != ',')

theorem comma_not_mem_lastPlace (a : Text) : ',' ∉ lastPlace a := fun h =>
  absurd (List.mem_takeWhile_imp (List.mem_reverse.1 h)) (by decide)

theorem comma_not_mem_firstPlace (b : Text) : ',' ∉ firstPlace b := fun h =>
  absurd (List.mem_takeWhile_imp h) (by decide)

/-- Of what stands in front, only the last place takes part in the entries that follow. -/
theorem exists_writtenFlags_append (a : Text) :
    ∃ before, ∀ s, writtenFlags (a ++ s) = before ++ writtenFlags (lastPlace a ++ s) := by
  have hsplit : (a.reverse.dropWhile (· != ',')).reverse ++ lastPlace a = a := by
    rw [lastPlace, ← List.reverse_append, List.takeWhile_append_dropWhile, List.reverse_reverse]
  cases hfront : a.reverse.dropWhile (· != ',') with
  | nil =>
    rw [hfront, List.reverse_nil, List.nil_append] at hsplit
    exact ⟨[], fun s => by rw [hsplit, List.nil_append]⟩
  | cons c front =>
    obtain rfl : c = ',' := by simpa [hfront] using List.head?_dropWhile_not (· != ',') a.reverse
    refine ⟨writtenFlags front.reverse, fun s => ?_⟩
    rw [← writtenFlags_append_cons, ← List.cons_append, ← List.append_assoc]
    rw [hfront, List.reverse_cons, List.append_assoc, List.singleton_append] at hsplit
    rw [hsplit]

/-- Of what stands behind, only the first place takes part in the entries in front of it. -/
theorem exists_writtenFlags_append_right (b : Text) :
    ∃ behind, ∀ s, writtenFlags (s ++ b) = writtenFlags (s ++ firstPlace b) ++ behind := by
  have hsplit : firstPlace b ++ b.dropWhile (· != ',') = b := List.takeWhile_append_dropWhile
  cases hback : b.dropWhile (· != ',') with
  | nil =>
    rw [hback, List.append_nil] at hsplit
    exact ⟨[], fun s => by rw [hsplit, List.append_nil]⟩
  | cons c back =>
    obtain rfl : c = ',' := by simpa [hback] using List.head?_dropWhile_not (· != ',') b
    refine ⟨writtenFlags back, fun s => ?_⟩
    rw [← writtenFlags_append_cons, List.append_assoc]
    rw [hback] at hsplit
    rw [hsplit]

/-- **The edge of an entry.** Between the two parts of a list an entry begins or ends, or there is
none: what the first part ends with is blank, or what the second one begins with. -/
def AtEdge (a b : Text) : Prop :=
  (∀ c ∈ lastPlace a, isBlank c = true) ∨ ∀ c ∈ firstPlace b, isBlank c = true

instance (a b : Text) : Decidable (AtEdge a b) := inferInstanceAs (Decidable (_ ∨ _))

/-- Blanks at an end of an entry do not belong to it. -/
theorem writtenFlags_place {x y : Text} (hx : ',' ∉ x) (hy : ',' ∉ y)
    (h : (∀ c ∈ x, isBlank c = true) ∨ ∀ c ∈ y, isBlank c = true) {c : Char}
    (hc : isBlank c = true ∨ c = ',') :
    writtenFlags (x ++ c :: y) = writtenFlags (x ++ y) := by
  have hboth : ',' ∉ x ++ y := by simp [hx, hy]
  rcases hc with hc | rfl
  · have hcomma : ',' ∉ x ++ c :: y := by
      have hne : ',' ≠ c := by
        rintro rfl
        exact absurd hc (by decide)
      simp [hx, hy, hne]
    rw [writtenFlags_of_not_mem hcomma, writtenFlags_of_not_mem hboth]
    rcases h with h | h
    · have hfront : ∀ d ∈ x ++ [c], isBlank d = true := by simpa [or_imp, forall_and, hc] using h
      rw [List.append_cons, Text.trim_append_of_isBlank hfront, Text.trim_append_of_isBlank h]
    · have hback : ∀ d ∈ c :: y, isBlank d = true := List.forall_mem_cons.2 ⟨hc, h⟩
      rw [Text.trim_append_of_isBlank_right x hback, Text.trim_append_of_isBlank_right x h]
  · -- the comma makes two places of one, one of which is blank
    rw [writtenFlags_append_cons]
    rcases h with h | h
    · rw [writtenFlags_of_isBlank h, List.nil_append, writtenFlags_of_not_mem hboth,
        writtenFlags_of_not_mem hy, Text.trim_append_of_isBlank h]
    · rw [writtenFlags_of_isBlank h, List.append_nil, writtenFlags_of_not_mem hboth,
        writtenFlags_of_not_mem hx, Text.trim_append_of_isBlank_right x h]

/-- A blank or a comma at the edge of an entry changes no entry. -/
theorem writtenFlags_of_atEdge {a b : Text} (h : AtEdge a b) {c : Char}
    (hc : isBlank c = true ∨ c = ',') :
    writtenFlags (a ++ c :: b) = writtenFlags (a ++ b) := by
  obtain ⟨before, hbefore⟩ := exists_writtenFlags_append a
  obtain ⟨behind, hbehind⟩ := exists_writtenFlags_append_right b
  have hplace := writtenFlags_place (comma_not_mem_lastPlace a) (comma_not_mem_firstPlace b) h hc
  calc writtenFlags (a ++ c :: b)
      = before ++ (writtenFlags (lastPlace a ++ c :: firstPlace b) ++ behind) := by
        rw [hbefore, List.append_cons, hbehind, List.append_assoc, List.singleton_append]
    _ = before ++ (writtenFlags (lastPlace a ++ firstPlace b) ++ behind) := by rw [hplace]
    _ = writtenFlags (a ++ b) := by rw [← hbehind, ← hbefore]

variable {F : Type} [FlagFamily F]

/-- The entries of a list that stand for a flag of a kind, in their order. -/
def entriesOf (k : Kind F) (s : Text) : List Text :=
  (writtenFlags s).filter fun w => (lookUp (F := F) w).toOption.any fun f => kind f = k

end FlagFamily

/-! ### Sets of flags -/

namespace FlagSet

open FlagFamily

variable {F : Type} [FlagFamily F] {s t : FlagSet F}

/-- No set has a flag of a kind that does not belong to the family. -/
theorem find?_eq_none_of_not_mem {k : Kind F} (hk : k ∉ kinds (F := F)) (s : FlagSet F) :
    s.find? k = none := by
  rw [Option.eq_none_iff_forall_ne_some]
  intro f hf
  have hmem := s.ordered.subset (List.mem_map_of_mem (List.mem_of_find?_eq_some hf))
  rw [kind_of_find? hf] at hmem
  exact hk hmem

/-- A set of flags is determined by what it has of each kind. -/
theorem eq_of_find?_eq (h : ∀ k, s.find? k = t.find? k) : s = t := by
  have hflags : s.flags = t.flags := by
    rw [flags_eq_filterMap_find? s, flags_eq_filterMap_find? t, funext h]
  cases s
  cases t
  cases hflags
  rfl

/-- Of flags that are picked kind by kind, the one of a kind is what is picked for it. -/
theorem find?_filterMap {pick : Kind F → Option F} (hpick : ∀ k f, pick k = some f → kind f = k)
    {ks : List (Kind F)} (hks : ks.Nodup) {k : Kind F} (hk : k ∈ ks) :
    ((ks.filterMap pick).find? fun f => kind f = k) = pick k := by
  induction ks with
  | nil => cases hk
  | cons first ks ih =>
    obtain ⟨hfirst, hks⟩ := List.nodup_cons.1 hks
    by_cases hsame : first = k
    · subst hsame
      cases hpicked : pick first with
      | some f => simp [hpicked, hpick first f hpicked]
      | none =>
        -- no flag of this kind is picked for another one
        rw [List.filterMap_cons_none hpicked, List.find?_eq_none]
        intro f hf hkind
        obtain ⟨other, hother, hf⟩ := List.mem_filterMap.1 hf
        have hkind : kind f = first := by simpa using hkind
        exact hfirst (hkind ▸ hpick other f hf ▸ hother)
    · have hrest := ih hks ((List.mem_cons.1 hk).resolve_left (Ne.symm hsame))
      cases hpicked : pick first with
      | none => rw [List.filterMap_cons_none hpicked, hrest]
      | some f =>
        rw [List.filterMap_cons_some hpicked, List.find?_cons_of_neg, hrest]
        simpa [hpick first f hpicked] using hsame

/-- The flag of a kind in a set that a list makes is the last one of this kind in the list. -/
theorem find?_ofList {flags : List F} {k : Kind F} (hk : k ∈ kinds (F := F)) :
    (ofList flags).find? k = flags.reverse.find? fun f => kind f = k :=
  find?_filterMap (fun _ _ h => by simpa using List.find?_some h) kinds_nodup hk

/-- The flags of a set, with those of another one in the place of flags of the same kinds. -/
def override (s t : FlagSet F) : FlagSet F where
  flags := (kinds (F := F)).filterMap fun k => (t.find? k).or (s.find? k)
  ordered := map_kind_filterMap_sublist
    (fun _ _ h => (Option.or_eq_some_iff.1 h).elim kind_of_find? fun h => kind_of_find? h.2) _

/-- The flag of a kind is the one that the second set has, as a whole, and only without one that of
the first. -/
theorem find?_override (s t : FlagSet F) (k : Kind F) :
    (s.override t).find? k = (t.find? k).or (s.find? k) := by
  by_cases hk : k ∈ kinds (F := F)
  · exact find?_filterMap
      (fun _ _ h => (Option.or_eq_some_iff.1 h).elim kind_of_find? fun h =>
        kind_of_find? h.2) kinds_nodup hk
  · rw [find?_eq_none_of_not_mem hk, find?_eq_none_of_not_mem hk, find?_eq_none_of_not_mem hk,
      Option.or_none]

/-- Flags do not change when the same flags override them. -/
theorem override_self (s : FlagSet F) : s.override s = s :=
  eq_of_find?_eq fun k => by rw [find?_override, Option.or_self]

/-- The set that two lists of flags make together. -/
theorem ofList_append (flags more : List F) :
    ofList (flags ++ more) = (ofList flags).override (ofList more) := by
  refine eq_of_find?_eq fun k => ?_
  by_cases hk : k ∈ kinds (F := F)
  · rw [find?_override, find?_ofList hk, find?_ofList hk, find?_ofList hk, List.reverse_append,
      List.find?_append]
  · rw [find?_eq_none_of_not_mem hk, find?_eq_none_of_not_mem hk]

/-- Two lists with the same flags of each kind, in the same order, make the same set. -/
theorem ofList_eq_of_filter {flags flags' : List F}
    (h : ∀ k : Kind F, (flags.filter fun f => kind f = k) = flags'.filter fun f => kind f = k) :
    ofList flags = ofList flags' := by
  have hfind : ∀ k : Kind F,
      (flags.reverse.find? fun f => kind f = k) = flags'.reverse.find? fun f => kind f = k := by
    intro k
    rw [← List.head?_filter, ← List.head?_filter, List.filter_reverse, List.filter_reverse, h]
  simp only [ofList, hfind]

/-! ### Lists that are read -/

/-- Two lists with a comma between them are read one after the other. -/
theorem read_append_cons (a b : Text) :
    read (F := F) (a ++ ',' :: b) = do
      let s ← read a
      let t ← read b
      return s.override t := by
  simp only [read, writtenFlags_append_cons, List.mapM_append]
  cases (writtenFlags a).mapM (lookUp (F := F)) with
  | error e => rfl
  | ok flags =>
    cases (writtenFlags b).mapM (lookUp (F := F)) with
    | error e => rfl
    | ok more => exact congrArg Except.ok (ofList_append flags more)

/-- A list that is written twice is read as if it were written once. -/
theorem read_twice (a : Text) : read (F := F) (a ++ ',' :: a) = read a := by
  rw [read_append_cons]
  cases read (F := F) a with
  | error e => rfl
  | ok s => exact congrArg Except.ok (override_self s)

/-- A blank or a comma at the edge of a place does not change what is read. -/
theorem read_of_atEdge {a b : Text} (h : AtEdge a b) {c : Char} (hc : isBlank c = true ∨ c = ',') :
    read (F := F) (a ++ c :: b) = read (a ++ b) := by
  rw [read, read, writtenFlags_of_atEdge h hc]

/-- **Rearranged lists.** One list has the entries of the other one in another order, in which the
entries of one and the same flag stand as they stood. -/
structure Rearranged (F : Type) [FlagFamily F] (a b : Text) : Prop where
  perm : (writtenFlags a).Perm (writtenFlags b)
  sameOrder : ∀ k : Kind F, entriesOf k a = entriesOf k b

/-- The flags of a kind that a list gives are read off its entries of this kind. -/
theorem filter_of_mapM {a : Text} {flags : List F} (h : (writtenFlags a).mapM lookUp = .ok flags)
    (k : Kind F) :
    (flags.filter fun f => kind f = k) = (entriesOf k a).filterMap fun w =>
      (lookUp w).toOption := by
  obtain ⟨-, rfl⟩ := mapM_eq_ok_iff.1 h
  rw [entriesOf, List.filter_filterMap, List.filterMap_filter]
  refine List.filterMap_congr fun w _ => ?_
  cases (lookUp (F := F) w).toOption with
  | none => rfl
  | some f => by_cases hk : kind f = k <;> simp [hk]

/-- A list that can be read is read as the same set when it is rearranged. -/
theorem read_of_rearranged {a b : Text} (h : Rearranged F a b) {s : FlagSet F}
    (hread : read a = .ok s) :
    read (F := F) b = .ok s := by
  rw [read] at hread
  obtain ⟨flags, hflags, rfl⟩ := map_eq_ok_iff.1 hread
  obtain ⟨hall, -⟩ := mapM_eq_ok_iff.1 hflags
  have hflags' := mapM_eq_ok_iff.2 ⟨fun w hw => hall w (h.perm.mem_iff.2 hw), rfl⟩
  rw [read, hflags']
  refine congrArg Except.ok (ofList_eq_of_filter fun k => ?_)
  rw [filter_of_mapM hflags', filter_of_mapM hflags, h.sameOrder]

/-- **What lists of flags obey**, in a family of flags. -/
structure ListLaws (F : Type) [FlagFamily F] : Prop where
  /-- Two lists with a comma between them are read if both are. The error is that of the first one,
  if it has one, and else that of the second one. -/
  append : ∀ a b, read (F := F) (a ++ ',' :: b) = do
    let s ← read a
    let t ← read b
    return s.override t
  /-- Flag by flag, what the second list says counts, and only else what the first one says. -/
  override : ∀ (s t : FlagSet F) (k : Kind F), (s.override t).find? k = (t.find? k).or (s.find? k)
  /-- Repeating a list changes nothing. -/
  twice : ∀ a, read (F := F) (a ++ ',' :: a) = read a
  /-- Permuting entries of different flags changes nothing. -/
  rearranged : ∀ a b, Rearranged F a b → ∀ s : FlagSet F, read a = .ok s → read (F := F) b = .ok s
  /-- A blank or a further comma at the edge of an entry changes nothing. -/
  spaced : ∀ a b, AtEdge a b → ∀ c, isBlank c = true ∨ c = ',' →
    read (F := F) (a ++ c :: b) = read (a ++ b)

/-- The laws of lists hold in every family of flags. -/
theorem listLaws (F : Type) [FlagFamily F] : ListLaws F where
  append := read_append_cons
  override := find?_override
  twice := read_twice
  rearranged _ _ h _ := read_of_rearranged h
  spaced _ _ h _ := read_of_atEdge h

/-! ### The order of effects -/

/-- The effects of a set of flags come kind by kind. -/
theorem effects_eq_filterMap_effectOf? {s : FlagSet RuleFlag} {es : List Effect}
    (h : s.effects = .ok es) :
    es = RuleFlag.Kind.all.filterMap s.effectOf? := by
  rw [effects_eq_filterMap h, flags_eq_filterMap_find?, List.filterMap_filterMap]
  rfl

end FlagSet

/-- A rule is the same with the same flags. -/
theorem Rule.build_of_rearranged {a b : Text} (h : FlagSet.Rearranged RuleFlag a b)
    {s : FlagSet RuleFlag} (hread : FlagSet.read a = .ok s) (pattern substitution : Text) :
    build pattern substitution a = build pattern substitution b := by
  rw [build, build, hread, FlagSet.read_of_rearranged h hread]

/-- **Lists of flags.** The lists of rules and those of conditions obey the same laws. A rule is the
same when its list is rearranged, and its effects come in the order of the kinds of flags. -/
theorem FlagSet.read_lists :
    ListLaws RuleFlag ∧ ListLaws ConditionFlag ∧
      (∀ (a b : Text) (s : FlagSet RuleFlag), Rearranged RuleFlag a b → read a = .ok s →
        ∀ pattern substitution,
        Rule.build pattern substitution a = Rule.build pattern substitution b) ∧
      ∀ (r : Rule) (conditions : List Condition) (path : Text) (b final : Bindings)
        (o : RuleOutcome),
        r.apply conditions path b = (.ok o, final) → o.matched = true →
        o.effects = RuleFlag.Kind.all.filterMap r.flags.effectOf? := by
  refine ⟨listLaws RuleFlag, listLaws ConditionFlag, fun a b s h hread =>
    Rule.build_of_rearranged h hread, ?_⟩
  intro r conditions path b final o happly hm
  obtain ⟨-, -, heffects, -⟩ := Rule.apply_matched happly hm
  exact effects_eq_filterMap_effectOf? heffects

/-- A list with a status that is overridden, and the same one with a flag moved between both. -/
theorem FlagSet.rearranged_redirects :
    Rearranged RuleFlag "R=301,L,R=302".toList "L,R=301,R=302".toList where
  perm := by decide +kernel
  sameOrder := by
    have hall :
        ∀ k ∈ RuleFlag.Kind.all, FlagFamily.entriesOf (F := RuleFlag) k "R=301,L,R=302".toList =
        FlagFamily.entriesOf (F := RuleFlag) k "L,R=301,R=302".toList := by decide +kernel
    intro k
    refine hall k ?_
    cases (k : RuleFlag.Kind) <;> decide

/-- Either way the rule ends the run and redirects with the last status, in this order. -/
theorem FlagSet.read_lists_redirects :
    ∃ r o final,
      Rule.build "^/".toList "-".toList "R=301,L,R=302".toList = .ok r ∧
      Rule.build "^/".toList "-".toList "L,R=301,R=302".toList = .ok r ∧
      r.apply [] "/".toList .empty = (.ok o, final) ∧ o.effects = [.last, .redirect 302] ∧
      o.effects = RuleFlag.Kind.all.filterMap r.flags.effectOf? := by
  obtain ⟨-, -, hbuild, heffects⟩ := FlagSet.read_lists
  have hcomputed : ((Rule.build "^/".toList "-".toList "R=301,L,R=302".toList).toOption.map fun r =>
      (r.apply [] "/".toList .empty).1.toOption.map fun o => (o.matched, o.effects)) =
      some (some (true, [.last, .redirect 302])) := by
    decide +kernel
  have hflags : ((read (F := RuleFlag) "R=301,L,R=302".toList).toOption).isSome = true := by
    decide +kernel
  obtain ⟨flags, hread⟩ := Option.isSome_iff_exists.1 hflags
  obtain ⟨r, hr, hfacts⟩ := Option.map_eq_some_iff.1 hcomputed
  obtain ⟨o, ho, hfacts⟩ := Option.map_eq_some_iff.1 hfacts
  obtain ⟨hm, hes⟩ := Prod.mk.inj hfacts
  have happly : r.apply [] "/".toList .empty = (.ok o, (r.apply [] "/".toList .empty).2) :=
    Prod.ext (eq_ok_of_toOption ho) rfl
  refine ⟨r, o, _, eq_ok_of_toOption hr, ?_, happly, hes, heffects r [] _ _ _ o happly hm⟩
  rw [← hbuild _ _ flags rearranged_redirects (eq_ok_of_toOption hread)]
  exact eq_ok_of_toOption hr

end UrlRewrite
