import Mathlib.Data.List.Forall2
import UrlRewrite.Proofs.Config.Selection

/-!
# The position of the selected host

The selection compares ranks and nothing else, so that the ranks alone tell at which position among
the virtual hosts the selected one stands (`HostRank.bestPosition?`). Hence two configurations whose
hosts have the same ranks, one by one, select at the same position, whatever the hosts contain.

* `MainContext.scopeAt?_position?` says that the scope at that position is the selected one.
* `MainContext.Alike` says of two configurations that their main contexts have the same name, and
  their hosts, one by one, the same address, port and name. They select at the same position
  (`MainContext.Alike.position?_eq`), where both have scopes of the same label and the same name
  (`MainContext.Alike.scopeAt?`).

The key is that sorting commutes with renaming what is ranked (`HostRank.best?_map`). Hosts with
their positions can be renamed to the hosts, or to the positions.
-/

namespace UrlRewrite

/-! ### The best of ranked things, by its position -/

namespace HostRank

variable {α β : Type}

/-- Which one is best does not depend on what is ranked. -/
theorem best?_map (f : α → β) (ranked : List (HostRank × α)) :
    best? (ranked.map (Prod.map id f)) = (best? ranked).map (Prod.map id f) := by
  have hfalling : (falling ranked).map (Prod.map id f) = falling (ranked.map (Prod.map id f)) :=
    List.map_mergeSort fun _ _ _ _ => rfl
  rw [best?, ← hfalling, List.find?_map]
  rfl

/-- The position of the best of ranks, the first of several; none if no address matches. -/
def bestPosition? (ranks : List HostRank) : Option Nat := (best? ranks.zipIdx).map (·.2)

/-- Either nothing matches, or what is best stands at the position that the ranks tell. -/
theorem best?_eq_at (ranked : List (HostRank × α)) :
    (best? ranked = none ∧ bestPosition? (ranked.map (·.1)) = none) ∨
      ∃ i a, ranked[i]? = some a ∧ best? ranked = some a ∧
        bestPosition? (ranked.map (·.1)) = some i := by
  obtain ⟨placed, hplaced⟩ : ∃ placed : List (HostRank × (HostRank × α) × Nat),
      placed = ranked.zipIdx.map fun p => (p.1.1, p) := ⟨_, rfl⟩
  -- without the positions these are the ranked things, and without the things the ranks with
  -- their positions
  have hthings : placed.map (Prod.map id fun p => p.1.2) = ranked := by
    rw [hplaced, List.map_map]
    exact List.zipIdx_map_fst 0 ranked
  have hplaces : placed.map (Prod.map id fun p => p.2) = (ranked.map (·.1)).zipIdx := by
    rw [hplaced, List.map_map, List.zipIdx_map]
    rfl
  have hbest := best?_map (fun p => p.1.2) placed
  have hposition := best?_map (fun p => p.2) placed
  rw [hthings] at hbest
  rw [hplaces] at hposition
  rw [bestPosition?, hbest, hposition]
  cases hfound : best? placed with
  | none => exact Or.inl ⟨rfl, rfl⟩
  | some found =>
    have hmem : found ∈ placed := mem_falling.1 (List.mem_of_find?_eq_some hfound)
    rw [hplaced] at hmem
    obtain ⟨⟨a, i⟩, hat, rfl⟩ := List.mem_map.1 hmem
    exact Or.inr ⟨i, a, List.mem_zipIdx_iff_getElem?.1 hat, rfl, rfl⟩

end HostRank

/-! ### The position of a scope -/

namespace MainContext

variable {m m' : MainContext} {ip : Text} {port : Nat} {asked : Option Text}

/-- The position of the host that answers, among the virtual hosts; none if the main context
does. -/
def position? (m : MainContext) (ip : Text) (port : Nat) (asked : Option Text) : Option Nat :=
  HostRank.bestPosition? (m.ranks ip port asked)

/-- The scope at a position: a virtual host, or without a position the main context. -/
def scopeAt? (m : MainContext) : Option Nat → Option Scope
  | none => some (.main m)
  | some i => m.virtualHosts[i]?.map .host

/-- **The scope that is selected** is the one at its position. -/
theorem scopeAt?_position? :
    m.scopeAt? (m.position? ip port asked) = some (m.select ip port asked) := by
  rw [position?, select_eq]
  rcases HostRank.best?_eq_at (m.ranked ip port asked) with
    ⟨hbest, hposition⟩ | ⟨i, a, hat, hbest, hposition⟩
  · rw [ranks, hposition, hbest]
    rfl
  · have hhost : m.virtualHosts[i]? = some a.2 := by
      rw [ranked, List.getElem?_map] at hat
      obtain ⟨h, hh, rfl⟩ := Option.map_eq_some_iff.1 hat
      exact hh
    rw [ranks, hposition, hbest, scopeAt?, hhost]
    rfl

end MainContext

/-! ### Configurations that are selected from alike -/

/-- **Hosts that a request cannot tell apart**, as far as selecting goes: they are declared for the
same address and port, and have the same name. -/
structure VirtualHost.Alike (h h' : VirtualHost) : Prop where
  ip : h'.ip = h.ip
  port : h'.port = h.port
  serverName : h'.serverName? = h.serverName?

instance (h h' : VirtualHost) : Decidable (h.Alike h') :=
  decidable_of_iff (h'.ip = h.ip ∧ h'.port = h.port ∧ h'.serverName? = h.serverName?)
    ⟨fun ⟨ip, port, name⟩ => ⟨ip, port, name⟩, fun halike =>
      ⟨halike.ip, halike.port, halike.serverName⟩⟩

/-- **Configurations that are selected from alike.** Their main contexts have the same name, and
they have equally many virtual hosts, which one by one cannot be told apart. -/
structure MainContext.Alike (m m' : MainContext) : Prop where
  serverName : m'.serverName? = m.serverName?
  hosts : List.Forall₂ VirtualHost.Alike m.virtualHosts m'.virtualHosts

instance (m m' : MainContext) : Decidable (m.Alike m') :=
  decidable_of_iff (m'.serverName? = m.serverName? ∧
    List.Forall₂ VirtualHost.Alike m.virtualHosts m'.virtualHosts)
    ⟨fun ⟨name, hosts⟩ => ⟨name, hosts⟩, fun halike => ⟨halike.serverName, halike.hosts⟩⟩

/-- Scopes that go by the same label and the same name. -/
structure Scope.Alike (s s' : Scope) : Prop where
  label : s'.label = s.label
  serverName : s'.serverName? = s.serverName?

namespace VirtualHost.Alike

variable {h h' : VirtualHost}

theorem rank_eq (halike : h.Alike h') (mainName : Option Text) (ip : Text) (port : Nat)
    (asked : Option Text) :
    h'.rank mainName ip port asked = h.rank mainName ip port asked := by
  simp only [rank, halike.ip, halike.port, halike.serverName]

theorem label_eq (halike : h.Alike h') : h'.label = h.label := by
  unfold label
  rw [halike.ip, halike.port]

theorem scope (halike : h.Alike h') : (Scope.host h).Alike (.host h') where
  label := halike.label_eq
  serverName := halike.serverName

end VirtualHost.Alike

namespace MainContext.Alike

variable {m m' : MainContext}

/-- Selecting from both compares the same ranks. -/
theorem ranks_eq (halike : m.Alike m') (ip : Text) (port : Nat) (asked : Option Text) :
    m'.ranks ip port asked = m.ranks ip port asked := by
  have hranks :
      ∀ n : MainContext, n.ranks ip port asked = n.virtualHosts.map (n.rankOf ip port asked) := by
    intro n
    rw [ranks, ranked, List.map_map]
    rfl
  have hpairs := halike.hosts.flip.imp fun h' h hh =>
    show m'.rankOf ip port asked h' = m.rankOf ip port asked h by
      rw [rankOf, rankOf, halike.serverName, VirtualHost.Alike.rank_eq hh]
  rw [hranks, hranks, ← List.forall₂_eq_eq_eq, List.forall₂_map_left_iff,
    List.forall₂_map_right_iff]
  exact hpairs

theorem position?_eq (halike : m.Alike m') (ip : Text) (port : Nat) (asked : Option Text) :
    m'.position? ip port asked = m.position? ip port asked := by
  rw [position?, position?, halike.ranks_eq]

/-- At each position, both have scopes that go by the same label and the same name. -/
theorem scopeAt? (halike : m.Alike m') {position : Option Nat} {s s' : Scope}
    (hs : m.scopeAt? position = some s) (hs' : m'.scopeAt? position = some s') : s.Alike s' := by
  cases position with
  | none =>
    obtain rfl := Option.some.inj hs
    obtain rfl := Option.some.inj hs'
    exact ⟨rfl, halike.serverName⟩
  | some i =>
    obtain ⟨h, hh, rfl⟩ := Option.map_eq_some_iff.1 hs
    obtain ⟨h', hh', rfl⟩ := Option.map_eq_some_iff.1 hs'
    obtain ⟨hi, rfl⟩ := List.getElem?_eq_some_iff.1 hh
    obtain ⟨hi', rfl⟩ := List.getElem?_eq_some_iff.1 hh'
    exact (halike.hosts.get hi hi').scope

end MainContext.Alike

end UrlRewrite
