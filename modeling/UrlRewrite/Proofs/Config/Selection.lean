import UrlRewrite.Config.Selection

/-!
# The host that is selected

The selection sorts the virtual hosts by falling rank and takes the first one whose address matches.
This module says which host that is, in terms of the declarations alone.

* `Directive.Declares` says which hosts take part: those declared directly, and those in blocks for
  modules that count, at any depth (`MainContext.mem_virtualHosts_iff`). Their order is that in
  which the directives that count are written (`Directive.Counts`);
* `MainContext.RanksAs` says what the rank of a host is, by its declared address, port and name;
* `HostRank.Below` is the order of ranks: the address decides, and the name between equal addresses;
* `MainContext.IsBest` says that a host matches by its address, that no host is ranked above it, and
  that those declared before it are ranked below it;
* `MainContext.select_best` says that such a host is selected, unless no host matches by its
  address, and what of the declarations the selection does not depend on.

A stable sort puts a greatest element first, and of several ones the first
(`split_of_sortFalling_eq_cons`). All hosts whose address matches are ranked above all others, so
that the first host of the sorted ones is selected, or none is. Where two lists of declarations have
the same matching hosts in the same order, both choices split them in the same way (`split_unique`).
-/

namespace UrlRewrite

/-! ### The first of a stable sort -/

section StableSort

variable {α : Type} (key : α → Nat)

/-- A list by falling keys; elements with the same key stay in their order. -/
def sortFalling (l : List α) : List α := l.mergeSort fun x y => decide (key y ≤ key x)

theorem sortFalling_perm (l : List α) : (sortFalling key l).Perm l := List.mergeSort_perm l _

private theorem falling_trans (x y z : α) :
    decide (key y ≤ key x) = true → decide (key z ≤ key y) = true →
      decide (key z ≤ key x) = true := by
  simp only [decide_eq_true_eq]
  omega

private theorem falling_total (x y : α) :
    (decide (key y ≤ key x) || decide (key x ≤ key y)) = true := by
  simp only [Bool.or_eq_true, decide_eq_true_eq]
  omega

/-- A sorted list has no key in front of a greater one. -/
theorem pairwise_sortFalling (l : List α) : (sortFalling key l).Pairwise fun x y => key y ≤ key x :=
  (List.pairwise_mergeSort (falling_trans key) (falling_total key) l).imp of_decide_eq_true

/-- Sorting does not change the order of the elements with a key. -/
theorem filter_sortFalling (k : Nat) (l : List α) :
    ((sortFalling key l).filter fun x => key x = k) = l.filter fun x => key x = k := by
  have hpairs : (l.filter fun x => key x = k).Pairwise fun x y =>
    decide (key y ≤ key x) = true := by
    refine List.pairwise_of_forall_mem_list fun x hx y hy => ?_
    simp only [List.mem_filter, decide_eq_true_eq] at hx hy
    simp [hx.2, hy.2]
  have hsub :=
    List.sublist_mergeSort (falling_trans key) (falling_total key) hpairs List.filter_sublist
  have hsub' := hsub.filter fun x => key x = k
  simp only [List.filter_filter, Bool.and_self] at hsub'
  exact (hsub'.eq_of_length ((sortFalling_perm key l).filter _).length_eq.symm).symm

variable {key}

/-- The first element of a sorted list has the greatest key, and no element in front of it in the
list that is sorted has the same. -/
theorem split_of_sortFalling_eq_cons {l rest : List α} {a : α} (h : sortFalling key l = a :: rest) :
    ∃ front back, l = front ++ a :: back ∧ (∀ x ∈ front, key x < key a) ∧
      ∀ x ∈ back, key x ≤ key a := by
  have hsorted : (a :: rest).Pairwise fun x y => key y ≤ key x := h ▸ pairwise_sortFalling key l
  have hgreatest : ∀ x ∈ l, key x ≤ key a := by
    intro x hx
    have hmem : x ∈ a :: rest := h ▸ (sortFalling_perm key l).mem_iff.2 hx
    rcases List.mem_cons.1 hmem with rfl | hmem
    · exact Nat.le_refl _
    · exact (List.pairwise_cons.1 hsorted).1 x hmem
  -- sorting keeps the order of equals, so the first one is the first of the greatest
  have hfirst : (l.filter fun x => key x = key a) = a :: rest.filter fun x => key x = key a := by
    rw [← filter_sortFalling, h, List.filter_cons_of_pos (by simp)]
  obtain ⟨front, back, rfl, hfront, -, -⟩ := List.filter_eq_cons_iff.1 hfirst
  refine ⟨front, back, rfl, fun x hx => ?_, fun x hx => hgreatest x (by simp [hx])⟩
  have hne : key x ≠ key a := by simpa using hfront x hx
  have hle := hgreatest x (by simp [hx])
  omega

variable (key)

/-- There is at most one first of the greatest elements. -/
theorem split_unique {front back front' back' : List α} {a b : α}
    (h : front ++ a :: back = front' ++ b :: back')
    (hfront : ∀ x ∈ front, key x < key a) (hback : ∀ x ∈ back, key x ≤ key a)
    (hfront' : ∀ x ∈ front', key x < key b) (hback' : ∀ x ∈ back', key x ≤ key b) : a = b := by
  -- otherwise one of the two would stand in front of the other one, and the other one behind it
  rcases List.append_eq_append_iff.1 h with ⟨mid, rfl, hmid⟩ | ⟨mid, rfl, hmid⟩
  · cases mid with
    | nil => exact (List.cons.inj hmid).1
    | cons c mid =>
      obtain ⟨rfl, rfl⟩ := List.cons.inj hmid
      have hlt := hfront' a (by simp)
      have hle := hback b (by simp)
      omega
  · cases mid with
    | nil => exact (List.cons.inj hmid).1.symm
    | cons c mid =>
      obtain ⟨rfl, rfl⟩ := List.cons.inj hmid
      have hlt := hfront b (by simp)
      have hle := hback' a (by simp)
      omega

end StableSort

/-! ### The hosts that take part -/

namespace Directive

/-- **The hosts that take part.** A virtual host is declared among directives directly, or in a
block for a module that counts. -/
inductive Declares : List Directive → VirtualHost → Prop
  | directly {ds : List Directive} {ip : Wildcard Text} {port : Wildcard Nat}
      {children : List Directive} :
      virtualHost ip port children ∈ ds → Declares ds ⟨ip, port, children⟩
  | inModule {ds children : List Directive} {negated : Bool} {module : Text} {h : VirtualHost} :
      ifModule negated module children ∈ ds → isActiveModule negated module = true →
        Declares children h → Declares ds h

/-- A directive counts if it is among those that a directive of the list stands for. -/
theorem mem_active_iff {d : Directive} {ds : List Directive} :
    d ∈ active ds ↔ ∃ e ∈ ds, d ∈ flatten e := by
  induction ds with
  | nil => simp [active]
  | cons e ds ih => simp [active, ih]

theorem declares_of_mem {ds : List Directive} {d : Directive} {h : VirtualHost} (hd : d ∈ ds)
    (hdecl : Declares [d] h) : Declares ds h := by
  cases hdecl with
  | directly hmem => exact .directly (List.mem_singleton.1 hmem ▸ hd)
  | inModule hmem hactive hchildren =>
    exact .inModule (List.mem_singleton.1 hmem ▸ hd) hactive hchildren

mutual

/-- What counts of a directive is declared by it. -/
theorem declares_of_mem_flatten {h : VirtualHost} : ∀ d : Directive,
    virtualHost h.ip h.port h.children ∈ flatten d → Declares [d] h
  | .ifModule negated module children, hmem => by
    rw [flatten] at hmem
    split at hmem
    · rename_i hactive
      exact .inModule List.mem_cons_self hactive (declares_of_mem_active children hmem)
    · simp at hmem
  | .virtualHost ip port children, hmem => by
    obtain rfl : h = ⟨ip, port, children⟩ := by
      cases h
      simpa [flatten] using hmem
    exact .directly List.mem_cons_self
  | .serverName _, hmem | .rewriteEngine _, hmem | .condition _, hmem | .rule _, hmem => by
    simp [flatten] at hmem

/-- A host among the directives that count is declared. -/
theorem declares_of_mem_active {h : VirtualHost} : ∀ ds : List Directive,
    virtualHost h.ip h.port h.children ∈ active ds → Declares ds h
  | [], hmem => by simp [active] at hmem
  | d :: ds, hmem => by
    rw [active, List.mem_append] at hmem
    rcases hmem with hmem | hmem
    · exact declares_of_mem List.mem_cons_self (declares_of_mem_flatten d hmem)
    · cases declares_of_mem_active ds hmem with
      | directly hin => exact .directly (List.mem_cons_of_mem d hin)
      | inModule hin hactive hchildren =>
        exact .inModule (List.mem_cons_of_mem d hin) hactive hchildren

end

theorem mem_active_of_declares {ds : List Directive} {h : VirtualHost} (hdecl : Declares ds h) :
    virtualHost h.ip h.port h.children ∈ active ds := by
  induction hdecl with
  | directly hmem => exact mem_active_iff.2 ⟨_, hmem, by simp [flatten]⟩
  | inModule hmem hactive _ ih => exact mem_active_iff.2 ⟨_, hmem, by rwa [flatten, if_pos hactive]⟩

end Directive

/-- The virtual hosts are those that are declared, directly or in blocks for modules that count. -/
theorem MainContext.mem_virtualHosts_iff {m : MainContext} {h : VirtualHost} :
    h ∈ m.virtualHosts ↔ Directive.Declares m.children h := by
  have hhost : ∀ d : Directive, d.virtualHost? = some h ↔
    d = .virtualHost h.ip h.port h.children := by
    intro d
    cases h
    cases d <;> simp [Directive.virtualHost?]
  rw [MainContext.virtualHosts, List.mem_filterMap]
  constructor
  · rintro ⟨d, hd, hh⟩
    obtain rfl := (hhost d).1 hh
    exact Directive.declares_of_mem_active _ hd
  · exact fun hdecl => ⟨_, Directive.mem_active_of_declares hdecl, (hhost _).2 rfl⟩

/-! ### The order of ranks -/

namespace HostRank

/-- **The order of ranks.** A rank is below another if its address matches less well, or equally
well and its name less well. -/
def Below (r s : HostRank) : Prop :=
  r.address.toNat < s.address.toNat ∨ r.address = s.address ∧ r.name.toNat < s.name.toNat

/-- The numbers of ranks are in the order of the ranks. -/
theorem toNat_lt_toNat_iff {r s : HostRank} : r.toNat < s.toNat ↔ r.Below s := by
  obtain ⟨ra, rn⟩ := r
  obtain ⟨sa, sn⟩ := s
  cases ra <;> cases rn <;> cases sa <;> cases sn <;> simp [toNat, Below, MatchRank.toNat]

/-- Ranks of which none is below the other are the same. -/
theorem eq_of_not_below {r s : HostRank} (hrs : ¬ r.Below s) (hsr : ¬ s.Below r) : r = s := by
  rw [← toNat_lt_toNat_iff] at hrs hsr
  have heq : r.toNat = s.toNat := by omega
  obtain ⟨ra, rn⟩ := r
  obtain ⟨sa, sn⟩ := s
  revert heq
  cases ra <;> cases rn <;> cases sa <;> cases sn <;> decide

/-- A host whose address does not match is ranked below all hosts whose address does. -/
theorem below_of_address {r s : HostRank} (hr : r.address = .none) (hs : s.address ≠ .none) :
    r.Below s := by
  refine Or.inl ?_
  rw [hr]
  cases hsa : s.address with
  | none => exact absurd hsa hs
  | wildcard => decide
  | strict => decide

variable {α : Type} {ranked ranked' : List (HostRank × α)}

theorem mem_falling {a : HostRank × α} : a ∈ falling ranked ↔ a ∈ ranked :=
  (List.mergeSort_perm ranked _).mem_iff

/-- There is no best one exactly if the address matches for none of them. -/
theorem best?_eq_none_iff : best? ranked = none ↔ ∀ a ∈ ranked, a.1.address = .none := by
  simp [best?, mem_falling]

/-- The best pair matches, is ranked above those in front of it, and not below those behind it. -/
theorem split_of_best? {a : HostRank × α} (h : best? ranked = some a) :
    a.1.address ≠ .none ∧ ∃ front back, ranked = front ++ a :: back ∧
      (∀ b ∈ front, b.1.Below a.1) ∧ ∀ b ∈ back, ¬ a.1.Below b.1 := by
  obtain ⟨hmatch, first, rest, hsplit, hfirst⟩ := List.find?_eq_some_iff_append.1 h
  have hmatch : a.1.address ≠ .none := by simpa using hmatch
  -- nothing stands in front of the first match, since all that does not match is ranked below it
  have hhead : ∃ rest, falling ranked = a :: rest := by
    cases first with
    | nil => exact ⟨rest, hsplit⟩
    | cons b first =>
      have hsorted : (falling ranked).Pairwise fun x y => y.1.toNat ≤ x.1.toNat :=
        pairwise_sortFalling _ ranked
      rw [hsplit, List.cons_append] at hsorted
      have hle := List.rel_of_pairwise_cons hsorted (List.mem_append_right _ List.mem_cons_self)
      have hnone : b.1.address = .none := by simpa using hfirst b List.mem_cons_self
      have hlt := toNat_lt_toNat_iff.2 (below_of_address hnone hmatch)
      omega
  obtain ⟨rest, hhead⟩ := hhead
  obtain ⟨front, back, rfl, hfront, hback⟩ := split_of_sortFalling_eq_cons hhead
  refine ⟨hmatch, front, back, rfl, fun b hb => toNat_lt_toNat_iff.1 (hfront b hb), fun b hb => ?_⟩
  rw [← toNat_lt_toNat_iff]
  exact Nat.not_lt.2 (hback b hb)

/-- The choice depends on what matches only. -/
theorem best?_congr
    (h : (ranked.filter fun a => a.1.address ≠ .none) = ranked'.filter fun a =>
      a.1.address ≠ .none) :
    best? ranked = best? ranked' := by
  have hmem : ∀ a : HostRank × α, a.1.address ≠ .none → (a ∈ ranked ↔ a ∈ ranked') := by
    intro a ha
    have := congrArg (a ∈ ·) h
    simpa [ha] using this
  cases hbest : best? ranked with
  | none =>
    rw [best?_eq_none_iff] at hbest
    refine (best?_eq_none_iff.2 fun a ha => Decidable.byContradiction fun hne => ?_).symm
    exact hne (hbest a ((hmem a hne).2 ha))
  | some a =>
    obtain ⟨hmatch, front, back, hsplit, hfront, hback⟩ := split_of_best? hbest
    cases hbest' : best? ranked' with
    | none =>
      have ha : a ∈ ranked' := (hmem a hmatch).1 (by simp [hsplit])
      exact absurd (best?_eq_none_iff.1 hbest' a ha) hmatch
    | some b =>
      obtain ⟨hmatch', front', back', hsplit', hfront', hback'⟩ := split_of_best? hbest'
      -- both split the matching ones at their first of the greatest rank
      rw [hsplit, hsplit', List.filter_append, List.filter_append,
        List.filter_cons_of_pos (by simpa using hmatch),
        List.filter_cons_of_pos (by simpa using hmatch')] at h
      refine congrArg some (split_unique (fun a => a.1.toNat) h ?_ ?_ ?_ ?_)
      · exact fun x hx => toNat_lt_toNat_iff.2 (hfront x (List.mem_filter.1 hx).1)
      · exact fun x hx => Nat.not_lt.1 fun hlt =>
          hback x (List.mem_filter.1 hx).1 (toNat_lt_toNat_iff.1 hlt)
      · exact fun x hx => toNat_lt_toNat_iff.2 (hfront' x (List.mem_filter.1 hx).1)
      · exact fun x hx => Nat.not_lt.1 fun hlt =>
          hback' x (List.mem_filter.1 hx).1 (toNat_lt_toNat_iff.1 hlt)

end HostRank

/-! ### Ranks -/

namespace MatchRank

theorem toNat_min (a b : MatchRank) : (a.min b).toNat = Nat.min a.toNat b.toNat := by
  rw [MatchRank.min]
  split
  · rename_i hle
    exact (Nat.min_eq_left hle).symm
  · rename_i hlt
    exact (Nat.min_eq_right (by omega)).symm

/-- The lesser of two ranks is the best one if both are. -/
theorem min_eq_strict_iff {a b : MatchRank} : a.min b = .strict ↔ a = .strict ∧ b = .strict := by
  cases a <;> cases b <;> decide

/-- The lesser of two ranks is no match if one of them is none. -/
theorem min_eq_none_iff {a b : MatchRank} : a.min b = .none ↔ a = .none ∨ b = .none := by
  cases a <;> cases b <;> decide

end MatchRank

namespace Wildcard

variable {α : Type} [DecidableEq α] {w : Wildcard α} {a : α}

/-- A declared value matches strictly if it is the one at hand. -/
theorem rank_eq_strict_iff : w.rank a = .strict ↔ w = .exactly a := by
  cases w with
  | any => simp [rank]
  | exactly b => simp [rank]

/-- A declared value does not match if it is another one than that at hand. -/
theorem rank_eq_none_iff : w.rank a = .none ↔ ∃ b, w = .exactly b ∧ b ≠ a := by
  cases w with
  | any => simp [rank]
  | exactly b => simp [rank]

end Wildcard

/-- **What the rank of a host is**, for a request that arrives on an address and a port and asks for
a name. -/
structure MainContext.RanksAs (m : MainContext) (ip : Text) (port : Nat) (asked : Option Text)
    (h : VirtualHost) (r : HostRank) : Prop where
  /-- The rank of the address is the lesser one of those of the declared address and of the declared
  port. -/
  address : r.address.toNat = Nat.min (h.ip.rank ip).toNat (h.port.rank port).toNat
  /-- It is the best one if both are declared as the request has them, -/
  address_eq_strict_iff : r.address = .strict ↔ h.ip = .exactly ip ∧ h.port = .exactly port
  /-- and there is no match if one of them is declared differently. -/
  address_eq_none_iff : r.address = .none ↔
    (∃ declared, h.ip = .exactly declared ∧ declared ≠ ip) ∨
      ∃ declared, h.port = .exactly declared ∧ declared ≠ port
  /-- The name matches if it is the name that is asked for but for the case of ASCII letters. A host
  without a name has that of the main context. -/
  name_eq_strict_iff : r.name = .strict ↔
    ∃ name wanted, h.serverName?.or m.serverName? = some name ∧ asked = some wanted ∧
      name.map Char.toLower = wanted.map Char.toLower
  /-- A name matches fully or not at all. -/
  name_ne_wildcard : r.name ≠ .wildcard

/-- The ranks that hosts are sorted by are like that. -/
theorem MainContext.ranksAs_rankOf (m : MainContext) (ip : Text) (port : Nat) (asked : Option Text)
    (h : VirtualHost) : m.RanksAs ip port asked h (m.rankOf ip port asked h) where
  address := MatchRank.toNat_min _ _
  address_eq_strict_iff := by
    rw [← Wildcard.rank_eq_strict_iff, ← Wildcard.rank_eq_strict_iff]
    exact MatchRank.min_eq_strict_iff
  address_eq_none_iff := by
    rw [← Wildcard.rank_eq_none_iff, ← Wildcard.rank_eq_none_iff]
    exact MatchRank.min_eq_none_iff
  name_eq_strict_iff := by
    cases hname : h.serverName?.or m.serverName? with
    | none => simp [rankOf, VirtualHost.rank, hname]
    | some name => cases asked <;> simp [rankOf, VirtualHost.rank, hname, Text.sameAsciiCase]
  name_ne_wildcard := by
    rw [rankOf, VirtualHost.rank.eq_def]
    dsimp only
    split
    · split <;> decide
    · decide

/-! ### The selection -/

/-- The host that answers; none if it is the main context. -/
def Scope.host? : Scope → Option VirtualHost
  | main _ => none
  | host h => some h

namespace MainContext

variable (m : MainContext) (ip : Text) (port : Nat) (asked : Option Text)

/-- The virtual hosts that match by their address. -/
def matching : List VirtualHost :=
  m.virtualHosts.filter fun h => (m.rankOf ip port asked h).address ≠ .none

/-- **The best host.** It matches by its address, no host is ranked above it, and those declared
before it are ranked below it. -/
structure IsBest (h : VirtualHost) : Prop where
  address : (m.rankOf ip port asked h).address ≠ .none
  greatest : ∀ h' ∈ m.virtualHosts, ¬ (m.rankOf ip port asked h).Below (m.rankOf ip port asked h')
  first : ∃ front back, m.virtualHosts = front ++ h :: back ∧
    ∀ h' ∈ front, (m.rankOf ip port asked h').Below (m.rankOf ip port asked h)

variable {m ip port asked}

theorem select_eq :
    m.select ip port asked =
      ((HostRank.best? (m.ranked ip port asked)).map (·.2)).elim (.main m) .host := by
  rw [select]
  split <;> simp [*]

/-- The host that answers is the best one, if there is a best one. -/
theorem host?_select :
    (m.select ip port asked).host? = (HostRank.best? (m.ranked ip port asked)).map (·.2) := by
  rw [select_eq]
  cases (HostRank.best? (m.ranked ip port asked)).map (·.2) <;> rfl

/-- The main context answers exactly if the address of no host matches. -/
theorem select_eq_main_iff :
    m.select ip port asked = .main m ↔
      ∀ h ∈ m.virtualHosts, (m.rankOf ip port asked h).address = .none := by
  have hnone : HostRank.best? (m.ranked ip port asked) = none ↔
      ∀ h ∈ m.virtualHosts, (m.rankOf ip port asked h).address = .none := by
    simp [HostRank.best?_eq_none_iff, ranked]
  rw [← hnone, select_eq]
  cases HostRank.best? (m.ranked ip port asked) <;> simp

theorem eq_of_select_eq_main {n : MainContext} (h : m.select ip port asked = .main n) : n = m := by
  rw [select_eq] at h
  cases hbest : HostRank.best? (m.ranked ip port asked) with
  | none =>
    rw [hbest] at h
    exact (Scope.main.inj h).symm
  | some a =>
    rw [hbest] at h
    cases h

theorem IsBest.mem {h : VirtualHost} (hbest : m.IsBest ip port asked h) : h ∈ m.virtualHosts := by
  obtain ⟨front, back, hsplit, -⟩ := hbest.first
  rw [hsplit]
  simp

/-- The host that answers is a best one. -/
theorem isBest_of_select {h : VirtualHost} (hselect : m.select ip port asked = .host h) :
    m.IsBest ip port asked h := by
  have hhost : (HostRank.best? (m.ranked ip port asked)).map (·.2) = some h := by
    rw [← host?_select, hselect, Scope.host?]
  obtain ⟨⟨r, h'⟩, hbest, rfl⟩ := Option.map_eq_some_iff.1 hhost
  obtain ⟨hmatch, front, back, hsplit, hfront, hback⟩ := HostRank.split_of_best? hbest
  -- the hosts are split as their ranks are
  obtain ⟨front, back', hhosts, rfl, hmid⟩ := List.map_eq_append_iff.1 hsplit
  obtain ⟨h, back, rfl, hh, rfl⟩ := List.map_eq_cons_iff.1 hmid
  obtain ⟨rfl, rfl⟩ := Prod.mk.inj hh
  rw [List.forall_mem_map] at hfront hback
  change m.IsBest ip port asked h
  refine ⟨hmatch, fun h' hh' => ?_, front, back, hhosts, hfront⟩
  rw [hhosts, List.mem_append, List.mem_cons] at hh'
  rcases hh' with hh' | rfl | hh'
  · intro habove
    have hbelow : (m.rankOf ip port asked h').Below (m.rankOf ip port asked h) := hfront h' hh'
    rw [← HostRank.toNat_lt_toNat_iff] at habove hbelow
    omega
  · simp [← HostRank.toNat_lt_toNat_iff]
  · exact hback h' hh'

/-- What is ranked alike in two configurations with the same name is chosen alike. -/
theorem rankOf_congr {m' : MainContext} (hname : m'.serverName? = m.serverName?) :
    m'.rankOf ip port asked = m.rankOf ip port asked := by
  funext h
  rw [rankOf, rankOf, hname]

/-- The host that answers depends on the hosts whose address matches, and on the name of the main
context. -/
theorem host?_select_congr {m' : MainContext} (hname : m'.serverName? = m.serverName?)
    (hmatching : m'.matching ip port asked = m.matching ip port asked) :
    (m'.select ip port asked).host? = (m.select ip port asked).host? := by
  have hranked : ∀ n : MainContext, ((n.ranked ip port asked).filter fun a => a.1.address ≠ .none) =
      (n.matching ip port asked).map fun h => (n.rankOf ip port asked h, h) := by
    intro n
    rw [ranked, List.filter_map]
    rfl
  have hbest :
      HostRank.best? (m'.ranked ip port asked) = HostRank.best? (m.ranked ip port asked) := by
    refine HostRank.best?_congr ?_
    rw [hranked, hranked, hmatching, rankOf_congr hname]
  rw [host?_select, host?_select, hbest]

/-- Whatever the order of the hosts, the one that answers has the same rank. -/
theorem rankOf_select_of_perm {m' : MainContext} (hname : m'.serverName? = m.serverName?)
    (hperm : m'.virtualHosts.Perm m.virtualHosts) :
    (m'.select ip port asked).host?.map (m.rankOf ip port asked) =
      (m.select ip port asked).host?.map (m.rankOf ip port asked) := by
  cases hselect : m.select ip port asked with
  | main n =>
    obtain rfl : n = m := eq_of_select_eq_main hselect
    have hnone := select_eq_main_iff.1 hselect
    have hnone' : ∀ h ∈ m'.virtualHosts, (m'.rankOf ip port asked h).address = .none := by
      intro h hh
      rw [rankOf_congr hname]
      exact hnone h (hperm.mem_iff.1 hh)
    rw [select_eq_main_iff.2 hnone']
    rfl
  | host h =>
    have hbest := isBest_of_select hselect
    have hh : h ∈ m.virtualHosts := hbest.mem
    cases hselect' : m'.select ip port asked with
    | main n =>
      obtain rfl : n = m' := eq_of_select_eq_main hselect'
      have hnone := select_eq_main_iff.1 hselect' h (hperm.mem_iff.2 hh)
      rw [rankOf_congr hname] at hnone
      exact absurd hnone hbest.address
    | host h' =>
      have hbest' := isBest_of_select hselect'
      -- neither of the two hosts is ranked above the other one
      have habove := hbest'.greatest h (hperm.mem_iff.2 hh)
      have hbelow := hbest.greatest h' (hperm.mem_iff.1 hbest'.mem)
      rw [rankOf_congr hname] at habove
      exact congrArg some (HostRank.eq_of_not_below habove hbelow)

/-- **The selection of a host.** The hosts that take part are those declared directly or in blocks
for modules that count, in the order in which they are written. The main context answers exactly if
none of them matches by its address, and otherwise a best host does. Hosts that do not match by
their address do not count, and in whatever order the hosts are declared, the host that is selected
has the same rank. -/
theorem select_best (m : MainContext) (ip : Text) (port : Nat) (asked : Option Text) :
    (∀ h, h ∈ m.virtualHosts ↔ Directive.Declares m.children h) ∧
      (∃ ds,
        Directive.Counts m.children ds ∧ m.virtualHosts = ds.filterMap Directive.virtualHost?) ∧
      (∀ h, m.RanksAs ip port asked h (m.rankOf ip port asked h)) ∧
      (m.select ip port asked = .main m ↔
        ∀ h ∈ m.virtualHosts, (m.rankOf ip port asked h).address = .none) ∧
      ((∃ h ∈ m.virtualHosts, (m.rankOf ip port asked h).address ≠ .none) →
        ∃ h, m.select ip port asked = .host h ∧ m.IsBest ip port asked h) ∧
      ∀ m' : MainContext, m'.serverName? = m.serverName? →
        (m'.matching ip port asked = m.matching ip port asked →
          (m'.select ip port asked).host? = (m.select ip port asked).host?) ∧
        (m'.virtualHosts.Perm m.virtualHosts →
          (m'.select ip port asked).host?.map (m.rankOf ip port asked) =
            (m.select ip port asked).host?.map (m.rankOf ip port asked)) := by
  refine ⟨fun h => mem_virtualHosts_iff, ⟨_, Directive.counts_active _, rfl⟩,
    m.ranksAs_rankOf ip port asked, select_eq_main_iff, ?_, fun m' hname =>
    ⟨host?_select_congr hname, rankOf_select_of_perm hname⟩⟩
  -- if the address of a host matches, it cannot be the main context that answers
  rintro ⟨h, hh, hmatch⟩
  cases hselect : m.select ip port asked with
  | main n =>
    obtain rfl : n = m := eq_of_select_eq_main hselect
    exact absurd (select_eq_main_iff.1 hselect h hh) hmatch
  | host h' => exact ⟨h', rfl, isBest_of_select hselect⟩

end MainContext

end UrlRewrite
