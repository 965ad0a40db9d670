import UrlRewrite.Result
import UrlRewrite.Text.Decimal
import UrlRewrite.Text.Quoted
import UrlRewrite.Text.Blank

/-!
# Flags

A flag list such as `NC,OR` or `R=301,L` switches options of a directive. Every directive with flags
has a `FlagFamily`: the kinds of its flags, in a fixed order, and for each kind the texts that stand
for a flag of that kind.

`FlagFamily.lookUp` reads a single flag by the first kind that recognises it, `FlagSet.read` a comma
separated list. A `FlagSet` has at most one flag of each kind, in the order of the kinds; of
several flags of a kind in a list, the last one counts, with all its arguments.
-/

namespace UrlRewrite

/-- Why the text of an argument does not stand for a value. -/
inductive ArgumentError where
  | decimal (e : DecimalError)
  | statusOutOfRange
  | lifetimeOutOfRange
deriving DecidableEq, Repr

namespace ArgumentError

def message : ArgumentError → String
  | decimal e => e.message
  | statusOutOfRange => "status code out of range"
  | lifetimeOutOfRange => "lifetime out of range"

end ArgumentError

/-- Why a text is no flag of a family. -/
inductive FlagError where
  | unknown (family : String) (written : Text)
  | invalidArgument (written : Text) (field : String) (value : Text) (cause : ArgumentError)
deriving DecidableEq, Repr

namespace FlagError

def message : FlagError → String
  | unknown family written => Text.quoted written ++ " is not a valid " ++ family
  | invalidArgument written field value cause =>
    "Invalid " ++ field ++ " argument " ++ Text.quoted value ++ " in flag " ++
      Text.quoted written ++ ": " ++ cause.message

end FlagError

/-- Reads an integer of 64 bits. -/
def readInteger (s : Text) : Except ArgumentError Int :=
  (Text.readInt Text.maxInt64 s).mapError .decimal

/-- Reads the number of an HTTP status. -/
def readStatus (s : Text) : Except ArgumentError Nat :=
  match Text.readNat Text.maxPort s with
  | .error e => .error (.decimal e)
  | .ok n => if 100 ≤ n ∧ n < 600 then .ok n else .error .statusOutOfRange

/-- The flags of a directive. -/
class FlagFamily (F : Type) where
  /-- What flags are told apart by. -/
  Kind : Type
  [decKind : DecidableEq Kind]
  /-- How messages call a flag of the family. -/
  title : String
  /-- All kinds, in the order in which they are tried and in which flags are listed. -/
  kinds : List Kind
  kinds_nodup : kinds.Nodup
  kind : F → Kind
  /-- The flag of a kind that a text stands for; `none` if it stands for no flag of that kind. -/
  read? : Kind → Text → Option (Except FlagError F)

instance {F : Type} [FlagFamily F] : DecidableEq (FlagFamily.Kind F) := FlagFamily.decKind

/-- Flags of a family, at most one of each kind, in the order of the kinds. -/
structure FlagSet (F : Type) [FlagFamily F] where
  flags : List F
  ordered : (flags.map FlagFamily.kind).Sublist FlagFamily.kinds
deriving DecidableEq, Repr

namespace FlagFamily

/-- A text cut at its first equals sign: the word of the flag, and its argument if there is one. -/
def cutArgument (s : Text) : Text × Option Text :=
  match s.splitFirst '=' with
  | some (word, argument) => (word, some argument)
  | none => (s, none)

variable {F : Type} [FlagFamily F]

/-- The first kind out of a list that recognises the text reads it. -/
def lookUpIn (kinds : List (Kind F)) (s : Text) : Except FlagError F :=
  (kinds.findSome? fun k => read? k s).getD (.error (.unknown (title F) s))

/-- Reads a single flag. -/
def lookUp (s : Text) : Except FlagError F := lookUpIn (kinds (F := F)) s

/-- The flags of a comma separated list, as they are written. -/
def writtenFlags (s : Text) : List Text :=
  ((Text.splitAll ',' s).map Text.trim).filter (!·.isEmpty)

end FlagFamily

namespace FlagSet

variable {F : Type} [FlagFamily F]

open FlagFamily

/-- The flag of a kind. -/
def find? (s : FlagSet F) (k : Kind F) : Option F := s.flags.find? fun f => kind f = k

def contains (s : FlagSet F) (k : Kind F) : Bool := (s.find? k).isSome

def isEmpty (s : FlagSet F) : Bool := s.flags.isEmpty

/-- Flags picked kind by kind come in the order of the kinds. -/
theorem map_kind_filterMap_sublist {pick : Kind F → Option F}
    (h : ∀ k f, pick k = some f → kind f = k) (ks : List (Kind F)) :
    ((ks.filterMap pick).map kind).Sublist ks := by
  induction ks with
  | nil => simp
  | cons k ks ih =>
    -- what is picked for the first kind, if anything, comes first
    cases hk : pick k with
    | none => simpa [List.filterMap_cons, hk] using ih.cons k
    | some f => simpa [List.filterMap_cons, hk, h k f hk] using ih

/-- The last flag of each kind, in the order of the kinds. -/
def ofList (flags : List F) : FlagSet F where
  flags := (kinds (F := F)).filterMap fun k => flags.reverse.find? fun f => kind f = k
  ordered := map_kind_filterMap_sublist (fun k f h => by simpa using List.find?_some h) _

/-- Reads a comma separated list of flags. Blanks around a flag and empty places do not count; the
first flag that cannot be read decides the error. -/
def read (s : Text) : Except FlagError (FlagSet F) :=
  ((writtenFlags s).mapM lookUp).map ofList

/-- A flag that is found by its kind is of this kind. -/
theorem kind_of_find? {s : FlagSet F} {k : Kind F} {f : F} (h : s.find? k = some f) :
    kind f = k := by
  simpa using List.find?_some h

/-- Flags in the order of a list of kinds are what is picked kind by kind, if of each kind the first
is. -/
theorem eq_filterMap_of_sublist {ks : List (Kind F)} (hks : ks.Nodup) {flags : List F}
    (h : (flags.map kind).Sublist ks) {pick : Kind F → Option F}
    (hpick : ∀ k ∈ ks, pick k = flags.find? fun f => kind f = k) : flags = ks.filterMap pick := by
  generalize hm : flags.map kind = m at h
  induction h generalizing flags with
  | slnil => simpa using hm
  | @cons m ks k h ih =>
    obtain ⟨hnotin, hnodup⟩ := List.nodup_cons.1 hks
    -- no flag is of the kind `k`, since `k` does not stand in `ks` again
    have hnone : pick k = none := by
      have hk : k ∉ flags.map kind := fun hmem => hnotin (h.subset (hm ▸ hmem))
      simpa [hpick k (List.mem_cons_self ..)] using hk
    rw [List.filterMap_cons, hnone]
    exact ih hnodup (fun k hk => hpick k (List.mem_cons_of_mem _ hk)) hm
  | @cons_cons m ks k h ih =>
    -- the first flag is the one of the first kind, and no later one is of this kind
    obtain ⟨f, rest, rfl, rfl, hrest⟩ := List.map_eq_cons_iff.1 hm
    obtain ⟨hnotin, hnodup⟩ := List.nodup_cons.1 hks
    have hfirst : pick (kind f) = some f := by simp [hpick (kind f) (List.mem_cons_self ..)]
    have hothers : ∀ k ∈ ks, pick k = rest.find? fun g => kind g = k := by
      intro k hk
      have hne : kind f ≠ k := fun he => hnotin (he ▸ hk)
      simp [hpick k (List.mem_cons_of_mem _ hk), hne]
    rw [List.filterMap_cons, hfirst]
    exact congrArg (f :: ·) (ih hnodup hothers hrest)

/-- A set of flags is the list of its flags by kind. -/
theorem flags_eq_filterMap_find? (s : FlagSet F) : s.flags = kinds.filterMap s.find? :=
  eq_filterMap_of_sublist kinds_nodup s.ordered fun _ _ => rfl

/-- What a function gives on a list is what it gives on a sublist outside of which it gives
nothing. -/
theorem filterMap_eq_of_sublist {α β : Type} {pick : α → Option β} {part all : List α}
    (h : part.Sublist all) (hnodup : all.Nodup) (hnone : ∀ a ∈ all, a ∉ part → pick a = none) :
    all.filterMap pick = part.filterMap pick := by
  induction h with
  | slnil => rfl
  | cons a h ih =>
    obtain ⟨hnotin, hnodup⟩ := List.nodup_cons.1 hnodup
    rw [List.filterMap_cons, hnone a (List.mem_cons_self ..) fun hmem => hnotin (h.subset hmem)]
    exact ih hnodup fun b hb => hnone b (List.mem_cons_of_mem _ hb)
  | cons_cons a h ih =>
    obtain ⟨hnotin, hnodup⟩ := List.nodup_cons.1 hnodup
    have htail := ih hnodup fun b hb hnot => hnone b (List.mem_cons_of_mem _ hb) fun hmem =>
      (List.mem_cons.1 hmem).elim (fun he => hnotin (he ▸ hb)) hnot
    rw [List.filterMap_cons, List.filterMap_cons, htail]

/-- What is read off flags of some kinds only is read off the flags of these kinds. -/
theorem filterMap_flags {β : Type} (s : FlagSet F) {read : F → Option β} {ks : List (Kind F)}
    (hks : ks.Sublist kinds) (h : ∀ f b, read f = some b → kind f ∈ ks) :
    s.flags.filterMap read = ks.filterMap fun k => (s.find? k).bind read := by
  rw [flags_eq_filterMap_find?, List.filterMap_filterMap]
  refine filterMap_eq_of_sublist hks kinds_nodup fun k _ hk => ?_
  cases hf : s.find? k with
  | none => rfl
  | some f =>
    cases hr : read f with
    | none => simpa using hr
    | some b =>
      -- then its kind would be one of them
      exact absurd (kind_of_find? hf ▸ h f b hr) hk

end FlagSet

end UrlRewrite
