import UrlRewrite.Config.Block

/-!
# Selection of virtual hosts

A request arrives on an address and asks for a host by name. Each virtual host is ranked, first by
how well its declared address and port match, then by whether its name is the one asked for. The
hosts are sorted by falling rank, and the first of them whose address matches is selected. Without
such a host the main context answers.

A virtual host without a name takes that of the main context.
-/

namespace UrlRewrite

/-- How well a declaration matches. -/
inductive MatchRank where
  | none
  | wildcard
  | strict
deriving DecidableEq, Repr

/-- Ranks in ascending order. -/
def MatchRank.toNat : MatchRank → Nat
  | none => 0
  | wildcard => 1
  | strict => 2

/-- How well a declaration matches a value. -/
def Wildcard.rank {α : Type} [DecidableEq α] : Wildcard α → α → MatchRank
  | any, _ => .wildcard
  | exactly a, b => if a = b then .strict else .none

/-- The lesser of two ranks. -/
def MatchRank.min (a b : MatchRank) : MatchRank := if a.toNat ≤ b.toNat then a else b

/-- The rank of a host: of its address, and then of its name. -/
structure HostRank where
  address : MatchRank
  name : MatchRank
deriving DecidableEq, Repr

namespace HostRank

/-- The order of ranks: the address decides, and the name if the addresses are alike. -/
def toNat (r : HostRank) : Nat := 3 * r.address.toNat + r.name.toNat

/-- The pairs by falling rank; pairs of equal rank stay in their order. -/
def falling {α : Type} (ranked : List (HostRank × α)) : List (HostRank × α) :=
  ranked.mergeSort fun a b => decide (b.1.toNat ≤ a.1.toNat)

/-- The pair of the greatest rank whose address matches, the first of several. -/
def best? {α : Type} (ranked : List (HostRank × α)) : Option (HostRank × α) :=
  (falling ranked).find? fun a => a.1.address ≠ .none

end HostRank

/-- A virtual host. -/
structure VirtualHost where
  ip : Wildcard Text
  port : Wildcard Nat
  children : List Directive

namespace VirtualHost

def active (h : VirtualHost) : List Directive := Directive.active h.children

def serverName? (h : VirtualHost) : Option Text := Directive.lastServerName? h.active

def engineOn (h : VirtualHost) : Bool := Directive.engineOn h.active

/-- How a declared address or port is written. -/
def declared {α : Type} (write : α → Text) : Wildcard α → Text
  | .any => ['*']
  | .exactly a => write a

/-- How reports call the host. -/
def label (h : VirtualHost) : Text :=
  "<VirtualHost ".toList ++ declared id h.ip ++ ':' :: declared Text.ofNat h.port ++ ">".toList

/-- The rank for a request that arrives on an address and a port and asks for a name. -/
def rank (h : VirtualHost) (mainName : Option Text) (ip : Text) (port : Nat) (asked : Option Text) :
    HostRank where
  address := (h.ip.rank ip).min (h.port.rank port)
  name :=
    match h.serverName?.or mainName, asked with
    | some name, some asked => if Text.sameAsciiCase name asked then .strict else .none
    | _, _ => .none

end VirtualHost

/-- Where a request is answered. -/
inductive Scope where
  | main (m : MainContext)
  | host (h : VirtualHost)

namespace Scope

/-- The directives that count in the scope. -/
def active : Scope → List Directive
  | main m => m.active
  | host h => h.active

/-- The directives as they are written in the scope. -/
def children : Scope → List Directive
  | main m => m.children
  | host h => h.children

def label : Scope → Text
  | main _ => "main context".toList
  | host h => h.label

def serverName? : Scope → Option Text
  | main m => m.serverName?
  | host h => h.serverName?

def engineOn : Scope → Bool
  | main m => m.engineOn
  | host h => h.engineOn

end Scope

namespace Directive

/-- The virtual host that a directive declares. -/
def virtualHost? : Directive → Option VirtualHost
  | virtualHost ip port children => some ⟨ip, port, children⟩
  | _ => none

end Directive

namespace MainContext

/-- The virtual hosts, also those in blocks for modules that count. -/
def virtualHosts (m : MainContext) : List VirtualHost := m.active.filterMap Directive.virtualHost?

/-- The rank of a host in a configuration. -/
def rankOf (m : MainContext) (ip : Text) (port : Nat) (asked : Option Text) (h : VirtualHost) :
    HostRank :=
  h.rank m.serverName? ip port asked

/-- The virtual hosts with their ranks, in the order of their declarations. -/
def ranked (m : MainContext) (ip : Text) (port : Nat) (asked : Option Text) :
    List (HostRank × VirtualHost) :=
  m.virtualHosts.map fun h => (m.rankOf ip port asked h, h)

/-- The ranks of the virtual hosts. -/
def ranks (m : MainContext) (ip : Text) (port : Nat) (asked : Option Text) : List HostRank :=
  (m.ranked ip port asked).map (·.1)

/-- The scope that answers a request. -/
def select (m : MainContext) (ip : Text) (port : Nat) (asked : Option Text) : Scope :=
  match HostRank.best? (m.ranked ip port asked) with
  | some (_, h) => .host h
  | none => .main m

end MainContext

end UrlRewrite
