import Mathlib.Data.List.Nodup
import UrlRewrite.Flag.Basic

/-!
# The order of flags

A set of flags keeps its flags in the order of their kinds. So it does not matter in which order a
text lists them, as long as they are of different kinds; of several flags of one kind the last one
counts.

* `FlagSet.Reordered` says that two texts list the same flags, of different kinds, in whatever
  order;
* `FlagSet.read_of_reordered` says that then they are read as the same set.

Reading a list succeeds exactly if all of it can be read (`mapM_eq_ok_iff`), which does not depend
on the order either. Nor does the flag of a kind that is found in a list, if there is at most one
(`find?_eq_of_perm`).
-/

namespace UrlRewrite

/-- What is found in a list is found in any other order of it, if there is at most one to be
found. -/
theorem find?_eq_of_perm {α : Type} {p : α → Bool} {l l' : List α} (h : l.Perm l')
    (hone : ∀ a ∈ l, ∀ b ∈ l, p a = true → p b = true → a = b) : l.find? p = l'.find? p := by
  cases hfound : l'.find? p with
  | none =>
    rw [List.find?_eq_none] at hfound ⊢
    exact fun a ha => hfound a (h.mem_iff.1 ha)
  | some b =>
    have hb := List.mem_of_find?_eq_some hfound
    have hpb := List.find?_some hfound
    -- something is found in the list as well, and there is only this to be found
    obtain ⟨a, ha⟩ := Option.isSome_iff_exists.1 (List.find?_isSome.2 ⟨b, h.mem_iff.2 hb, hpb⟩)
    have hab := hone a (List.mem_of_find?_eq_some ha) b (h.mem_iff.2 hb) (List.find?_some ha) hpb
    rw [ha, hab]

namespace FlagSet

open FlagFamily

variable {F : Type} [FlagFamily F]

theorem ofList_eq_of_perm {flags flags' : List F} (h : flags.Perm flags')
    (hnodup : (flags.map kind).Nodup) : ofList flags = ofList flags' := by
  have hfind : ∀ k : Kind F,
      (flags.reverse.find? fun f => kind f = k) = flags'.reverse.find? fun f => kind f = k := by
    intro k
    have hperm : flags.reverse.Perm flags'.reverse :=
      (List.reverse_perm flags).trans (h.trans (List.reverse_perm flags').symm)
    refine find?_eq_of_perm hperm ?_
    -- two flags of one kind are the same flag
    intro f hf g hg hfk hgk
    refine List.inj_on_of_nodup_map hnodup (List.mem_reverse.1 hf) (List.mem_reverse.1 hg) ?_
    rw [decide_eq_true_iff] at hfk hgk
    rw [hfk, hgk]
  simp only [ofList, hfind]

/-- **Reordered flags.** Two texts list the same flags, of different kinds, in whatever order. -/
structure Reordered (F : Type) [FlagFamily F] (s t : Text) : Prop where
  perm : (writtenFlags s).Perm (writtenFlags t)
  distinct : ∀ flags : List F, (writtenFlags s).mapM lookUp = .ok flags → (flags.map kind).Nodup

/-- Reordered flags are read as the same set. -/
theorem read_of_reordered {s t : Text} (h : Reordered F s t) {flags : FlagSet F}
    (hread : read s = .ok flags) : read (F := F) t = .ok flags := by
  rw [read] at hread
  cases hlist : (writtenFlags s).mapM (lookUp (F := F)) with
  | error e => rw [hlist] at hread; cases hread
  | ok listed =>
    rw [hlist] at hread
    obtain ⟨hall, hlisted⟩ := mapM_eq_ok_iff.1 hlist
    -- what can be read in one order can be read in the other, and gives the same flags
    have hlist' := mapM_eq_ok_iff.2 ⟨fun w hw => hall w (h.perm.mem_iff.2 hw), rfl⟩
    have hperm : listed.Perm _ := hlisted ▸ h.perm.filterMap _
    rw [read, hlist', ← hread]
    exact congrArg Except.ok (ofList_eq_of_perm hperm (h.distinct listed hlist)).symm

end FlagSet

end UrlRewrite
