import UrlRewrite.Site

/-!
# Groups of a match among the bindings

The groups of the last match are bound to the indices from zero on, one kind of them for rules and
one for conditions. `Bindings.update` binds new groups over old ones, and stops to take away old
ones at the first index without a value. This is enough as long as the bound indices have no gap:

* `Bindings.Contiguous` says that the indices with a value are those below some number, at most
  `groupLimit`;
* `Bindings.get?_update` says that on contiguous groups an update leaves nothing of an earlier
  match;
* `Bindings.get?_restore` says that groups that are put back are what they were.

All that changes bindings keeps the groups contiguous: updates, putting back contiguous groups, and
whatever changes keys that are no groups. So do the bindings that a request begins with, which have
no groups (`Bindings.contiguous_ofRequest`).
-/

namespace UrlRewrite

namespace Bindings

/-- **Contiguous groups.** The indices with a value are those below some number. -/
def Contiguous (b : Bindings) (kind : GroupKind) : Prop :=
  ∃ k ≤ groupLimit, ∀ i, (b.get? (.group kind i)).isSome = true ↔ i < k

variable {b : Bindings} {kind : GroupKind} {key : Key} {index i : Nat}

/-! ### Updates -/

/-- If the indices with a value are those below a number, the others are those from it on. -/
theorem get?_group_eq_none_iff {k : Nat} (hk : (b.get? (.group kind i)).isSome = true ↔ i < k) :
    b.get? (.group kind i) = none ↔ k ≤ i := by
  rw [← Nat.not_lt, ← hk, Bool.not_eq_true, Option.isSome_eq_false_iff, Option.isNone_iff_eq_none]

theorem group_ne (h : index ≠ i) : Key.group kind index ≠ .group kind i :=
  fun he => h (by injection he)

/-- Binding groups from an index on changes nothing but these groups. -/
theorem get?_updateFrom_of_ne {n : Nat}
    (hkey : ∀ i, index ≤ i → i < index + n → .group kind i ≠ key) (groups : List Text) :
    (b.updateFrom kind n index groups).get? key = b.get? key := by
  induction n generalizing b index groups with
  | zero => rfl
  | succ n ih =>
    have hfirst : .group kind index ≠ key := hkey index (Nat.le_refl index) (by omega)
    have hlater : ∀ i, index + 1 ≤ i → i < index + 1 + n → .group kind i ≠ key :=
      fun i hi hlt => hkey i (by omega) (by omega)
    cases groups with
    | cons g groups => rw [updateFrom, ih hlater, get?_set, if_neg hfirst]
    | nil =>
      -- without a value at this index nothing more is taken away
      rw [updateFrom]
      split
      · rw [ih hlater, get?_unset, if_neg hfirst]
      · rfl

/-- Binding groups from an index on leaves these groups only, if there is no gap behind that
index. -/
theorem get?_updateFrom {k n : Nat} {groups : List Text}
    (hk : ∀ i, index ≤ i → ((b.get? (.group kind i)).isSome = true ↔ i < k)) (hle : k ≤ index + n)
    (hi : index ≤ i) :
    (b.updateFrom kind n index groups).get? (.group kind i) =
      if i < index + n then groups[i - index]? else none := by
  -- the bindings change with every index, but not behind it, so that the gap stays where it is
  induction n generalizing b index groups with
  | zero =>
    rw [updateFrom, if_neg (by omega), get?_group_eq_none_iff (hk i hi)]
    omega
  | succ n ih =>
    have hsum : index + 1 + n = index + (n + 1) := by omega
    cases groups with
    | cons g groups =>
      rw [updateFrom]
      rcases Nat.eq_or_lt_of_le hi with rfl | hlt
      · -- what is bound at this index is not touched any more
        rw [get?_updateFrom_of_ne (fun i hi _ => group_ne (by omega)), get?_set, if_pos rfl,
          if_pos (by omega), Nat.sub_self, List.getElem?_cons_zero]
      · have hk' : ∀ i, index + 1 ≤ i →
            (((b.set (.group kind index) g).get? (.group kind i)).isSome = true ↔ i < k) := by
          intro i hi
          rw [get?_set, if_neg (group_ne (by omega))]
          exact hk i (by omega)
        have hpred : i - index = i - (index + 1) + 1 := by omega
        rw [ih hk' (by omega) hlt, hsum, hpred, List.getElem?_cons_succ]
    | nil =>
      rw [updateFrom, List.getElem?_nil, ite_self]
      split
      · -- an old group is taken away, and so are those behind it
        rcases Nat.eq_or_lt_of_le hi with rfl | hlt
        · rw [get?_updateFrom_of_ne (fun i hi _ => group_ne (by omega)), get?_unset, if_pos rfl]
        · have hk' : ∀ i, index + 1 ≤ i →
              (((b.unset (.group kind index)).get? (.group kind i)).isSome = true ↔ i < k) := by
            intro i hi
            rw [get?_unset, if_neg (group_ne (by omega))]
            exact hk i (by omega)
          rw [ih hk' (by omega) hlt, List.getElem?_nil, ite_self]
      · -- the first index without a value is behind all groups
        rename_i hnone
        have hgap := (get?_group_eq_none_iff (hk index (Nat.le_refl index))).1 hnone
        rw [get?_group_eq_none_iff (hk i hi)]
        omega

/-- An update changes nothing but the groups of its kind. -/
theorem get?_update_of_ne (hkey : ∀ i < groupLimit, .group kind i ≠ key)
    (groups : List (Option Text)) :
    (b.update kind groups).get? key = b.get? key :=
  get?_updateFrom_of_ne (fun i _ hi => hkey i (by omega)) _

/-- **Nothing of an earlier match survives.** After an update of contiguous groups, the groups are
those of the match, as far as they are bound at all; one that takes no part in the match is
empty. -/
theorem get?_update (h : b.Contiguous kind) (groups : List (Option Text)) (i : Nat) :
    (b.update kind groups).get? (.group kind i) =
      if i < groupLimit then groups[i]?.map (·.getD []) else none := by
  obtain ⟨k, hle, hk⟩ := h
  rw [update, get?_updateFrom (fun i _ => hk i) (by omega) (Nat.zero_le i),
    Nat.zero_add, Nat.sub_zero, List.getElem?_map]

/-! ### Putting back -/

/-- Assigning a value, or none, changes one key only. -/
theorem get?_assign (b : Bindings) (key k : Key) (value : Option Text) :
    (b.assign key value).get? k = if key = k then value else b.get? k := by
  cases value with
  | none => exact get?_unset b key k
  | some value => exact get?_set b key k value

theorem get?_restoreFrom_of_ne {saved : List (Option Text)}
    (hkey : ∀ i, index ≤ i → i < index + saved.length → .group kind i ≠ key) :
    (b.restoreFrom kind index saved).get? key = b.get? key := by
  induction saved generalizing b index with
  | nil => rfl
  | cons v saved ih =>
    rw [List.length_cons] at hkey
    rw [restoreFrom, ih fun i hi hlt => hkey i (by omega) (by omega), get?_assign,
      if_neg (hkey index (Nat.le_refl index) (by omega))]

/-- Groups that are put back have the values that have been kept. -/
theorem get?_restoreFrom (saved : List (Option Text)) (hi : index ≤ i) :
    (b.restoreFrom kind index saved).get? (.group kind i) =
      if i < index + saved.length then saved[i - index]?.join else b.get? (.group kind i) := by
  induction saved generalizing b index with
  | nil => rw [restoreFrom, List.length_nil, if_neg (by omega)]
  | cons v saved ih =>
    rw [restoreFrom]
    have hsum : index + 1 + saved.length = index + (v :: saved).length := by
      rw [List.length_cons]
      omega
    rcases Nat.eq_or_lt_of_le hi with rfl | hlt
    · -- what is put back at this index is not touched any more
      rw [get?_restoreFrom_of_ne (fun i hi _ => group_ne (by omega)), get?_assign, if_pos rfl,
        if_pos (by omega), Nat.sub_self, List.getElem?_cons_zero]
      rfl
    · have hpred : i - index = i - (index + 1) + 1 := by omega
      rw [ih hlt, hsum, hpred, List.getElem?_cons_succ, get?_assign, if_neg (group_ne (by omega))]

/-- Putting back groups changes nothing but groups of their kind. -/
theorem get?_restore_of_ne (hkey : ∀ i < groupLimit, .group kind i ≠ key)
    (saved : List (Option Text)) :
    (b.restore kind saved).get? key = b.get? key := by
  have hlength : (saved.take groupLimit).length ≤ groupLimit := List.length_take_le _ _
  exact get?_restoreFrom_of_ne fun i _ hi => hkey i (by omega)

/-- Groups that are put back are what they were. -/
theorem get?_restore (b saved : Bindings) (kind : GroupKind) (i : Nat) :
    (b.restore kind (saved.groups kind)).get? (.group kind i) =
      if i < groupLimit then saved.get? (.group kind i) else b.get? (.group kind i) := by
  have hlength : (saved.groups kind).length = groupLimit := by
    rw [groups, List.length_map, List.length_range]
  rw [restore, List.take_of_length_le (Nat.le_of_eq hlength), get?_restoreFrom _ (Nat.zero_le i),
    hlength, Nat.zero_add, Nat.sub_zero]
  split
  · rename_i hlt
    rw [groups, List.getElem?_map, List.getElem?_range hlt]
    rfl
  · rfl

/-! ### What keeps groups contiguous -/

theorem Contiguous.congr {b' : Bindings} (h : b.Contiguous kind)
    (heq : ∀ i, b'.get? (.group kind i) = b.get? (.group kind i)) : b'.Contiguous kind := by
  obtain ⟨k, hle, hk⟩ := h
  exact ⟨k, hle, fun i => by rw [heq, hk]⟩

theorem contiguous_empty (kind : GroupKind) : empty.Contiguous kind :=
  ⟨0, Nat.zero_le _, fun i => by simp⟩

/-- Groups stay contiguous if another key is set. -/
theorem Contiguous.set (h : b.Contiguous kind) (hkey : ∀ i, key ≠ .group kind i) (value : Text) :
    (b.set key value).Contiguous kind :=
  h.congr fun i => by rw [get?_set, if_neg (hkey i)]

theorem Contiguous.unset (h : b.Contiguous kind) (hkey : ∀ i, key ≠ .group kind i) :
    (b.unset key).Contiguous kind :=
  h.congr fun i => by rw [get?_unset, if_neg (hkey i)]

/-- Groups stay contiguous when those of a match are bound, of whichever kind these are. -/
theorem Contiguous.update (h : b.Contiguous kind) (matching : GroupKind)
    (groups : List (Option Text)) :
    (b.update matching groups).Contiguous kind := by
  by_cases hkind : matching = kind
  · subst hkind
    -- as many indices have a value as there are groups, up to the limit
    refine ⟨min groups.length groupLimit, Nat.min_le_right _ _, fun i => ?_⟩
    rw [get?_update h, Nat.lt_min]
    split
    · rename_i hlt
      rw [Option.isSome_map, isSome_getElem?, and_iff_left hlt]
    · rename_i hge
      simp [hge]
  · exact h.congr fun i => get?_update_of_ne (fun j _ he => hkind (by injection he)) groups

/-- Groups stay contiguous when others that are contiguous are put back. -/
theorem Contiguous.restore {saved : Bindings} (h : b.Contiguous kind)
    (hsaved : saved.Contiguous kind) (matching : GroupKind) :
    (b.restore matching (saved.groups matching)).Contiguous kind := by
  by_cases hkind : matching = kind
  · subst hkind
    obtain ⟨k, hle, hk⟩ := h
    obtain ⟨n, hle', hn⟩ := hsaved
    refine ⟨n, hle', fun i => ?_⟩
    rw [get?_restore]
    split
    · exact hn i
    · -- neither has a value behind the limit
      rw [hk i]
      omega
  · exact h.congr fun i => get?_restore_of_ne (fun j _ he => hkind (by injection he)) _

/-- Groups stay contiguous through changes one after the other. -/
theorem Contiguous.foldl {α : Type} {f : Bindings → α → Bindings} (h : b.Contiguous kind)
    (hf : ∀ (b : Bindings) (x : α), b.Contiguous kind → (f b x).Contiguous kind) (xs : List α) :
    (xs.foldl f b).Contiguous kind := by
  induction xs generalizing b with
  | nil => exact h
  | cons x xs ih => exact ih (hf b x h)

theorem Contiguous.setServer (h : b.Contiguous kind) (v : ServerVariable) (value : Text) :
    (b.setServer v value).Contiguous kind :=
  h.set (fun i he => by injection he) value

theorem Contiguous.addTable (h : b.Contiguous kind) (table : Text) (rows : List (Text × Text)) :
    (b.addTable table rows).Contiguous kind :=
  h.foldl (fun _ row h => h.set (fun i he => by injection he) row.2) rows

/-- The bindings with which working on a request begins have no groups. -/
theorem contiguous_ofRequest (r : Request) (server : Server) (now : Moment)
    (tables : List (Text × List (Text × Text))) (kind : GroupKind) :
    (ofRequest r server now tables).Contiguous kind := by
  have hservers : ∀ {b : Bindings} (values : List (ServerVariable × Text)),
      b.Contiguous kind → (b.setServers values).Contiguous kind := by
    intro b values h
    exact h.foldl (fun _ v h => h.setServer v.1 v.2) values
  -- request, server and moment bind server variables, and the tables bind entries
  refine Contiguous.foldl ?_ (fun _ table h => h.addTable table.1 table.2) tables
  exact hservers _ (hservers _ (hservers _ (contiguous_empty kind)))

end Bindings

end UrlRewrite
