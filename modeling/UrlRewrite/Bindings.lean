import UrlRewrite.ServerVariable
import UrlRewrite.Text.CaseFold

/-!
# Bindings

What the names of a template stand for while a request is worked on: the groups of the last matching
rule pattern and of the last matching condition, the server variables, the entries of lookup tables,
and the variables that rules have set.

A binding is looked up by its `Key`. `Bindings.get?_set` and `Bindings.get?_unset` say what the two
basic changes do to every key; all other changes are made of these two.

The groups of a match have the indices below `groupLimit`. `Bindings.update` binds them and takes
away what an earlier match with more groups has left, up to the first index without a value.
-/

namespace UrlRewrite

/-- The two kinds of patterns whose groups can be referred to. -/
inductive GroupKind where
  | rule
  | condition
deriving DecidableEq, Repr

/-- What a binding is looked up by. -/
inductive Key where
  | group (kind : GroupKind) (index : Nat)
  | server (v : ServerVariable)
  | entry (table key : Text)
  | env (name : Text)
deriving DecidableEq, Repr

/-- How many groups of a match are bound. -/
def groupLimit : Nat := 10

/-- Values for keys, each key at most once. -/
structure Bindings where
  entries : List (Key × Text)
  nodup : (entries.map (·.1)).Nodup

namespace Bindings

/-- No bindings. -/
def empty : Bindings := ⟨[], by simp⟩

instance : Inhabited Bindings := ⟨empty⟩

instance : DecidableEq Bindings := fun a b =>
  decidable_of_iff (a.entries = b.entries) ⟨fun h => by cases a; cases b; simp_all,
    fun h => by rw [h]⟩

/-- The value for a key in a list of entries. -/
def lookup (key : Key) : List (Key × Text) → Option Text
  | [] => none
  | (k, v) :: rest => if k = key then some v else lookup key rest

/-- The entries with the value of a key replaced, or added at the end. -/
def insert (key : Key) (value : Text) : List (Key × Text) → List (Key × Text)
  | [] => [(key, value)]
  | (k, v) :: rest => if k = key then (key, value) :: rest else (k, v) :: insert key value rest

/-- The value for a key. -/
def get? (b : Bindings) (key : Key) : Option Text := lookup key b.entries

theorem mem_keys_insert {key k : Key} {value : Text} {entries : List (Key × Text)} :
    k ∈ (insert key value entries).map (·.1) ↔ k = key ∨ k ∈ entries.map (·.1) := by
  induction entries with
  | nil => simp [insert]
  | cons e rest ih =>
    obtain ⟨j, v⟩ := e
    by_cases h : j = key
    · simp [insert, h]
    · simp only [insert, h, if_false, List.map_cons, List.mem_cons, ih]
      exact or_left_comm

/-- Inserting binds no key twice. -/
theorem nodup_insert {key : Key} {value : Text} {entries : List (Key × Text)}
    (h : (entries.map (·.1)).Nodup) : ((insert key value entries).map (·.1)).Nodup := by
  induction entries with
  | nil => simp [insert]
  | cons e rest ih =>
    obtain ⟨j, v⟩ := e
    simp only [List.map_cons, List.nodup_cons] at h
    by_cases hj : j = key
    · subst hj
      simpa [insert] using h
    · simp only [insert, hj, if_false, List.map_cons, List.nodup_cons]
      exact ⟨fun hm => (mem_keys_insert.1 hm).elim hj h.1, ih h.2⟩

/-- The bindings with a value for a key. -/
def set (b : Bindings) (key : Key) (value : Text) : Bindings :=
  ⟨insert key value b.entries, nodup_insert b.nodup⟩

/-- The bindings without a value for a key. -/
def unset (b : Bindings) (key : Key) : Bindings :=
  ⟨b.entries.filter fun e => e.1 ≠ key,
    (List.filter_sublist.map _).nodup b.nodup⟩

/-- How many keys are bound. -/
def size (b : Bindings) : Nat := b.entries.length

def isEmpty (b : Bindings) : Bool := b.entries.isEmpty

@[simp] theorem get?_empty (key : Key) : empty.get? key = none := rfl

/-- Inserting changes what is found for one key only. -/
theorem lookup_insert (key k : Key) (value : Text) (entries : List (Key × Text)) :
    lookup k (insert key value entries) = if key = k then some value else lookup k entries := by
  induction entries with
  | nil => simp [insert, lookup]
  | cons e rest ih =>
    obtain ⟨j, v⟩ := e
    by_cases hj : j = key
    · subst hj
      by_cases hk : j = k <;> simp [insert, lookup, hk]
    · -- the entry in front is that of another key
      by_cases hk : j = k
      · subst hk
        simp [insert, lookup, hj, Ne.symm hj]
      · simp [insert, lookup, hj, hk, ih]

/-- Setting a key changes one key only. -/
theorem get?_set (b : Bindings) (key k : Key) (value : Text) :
    (b.set key value).get? k = if key = k then some value else b.get? k :=
  lookup_insert key k value b.entries

/-- Nothing is found for a key whose entries are left out. -/
theorem lookup_filter (key k : Key) (entries : List (Key × Text)) :
    lookup k (entries.filter fun e => e.1 ≠ key) = if key = k then none else lookup k entries := by
  induction entries with
  | nil => simp [lookup]
  | cons e rest ih =>
    obtain ⟨j, v⟩ := e
    by_cases hj : j = key
    · subst hj
      by_cases hk : j = k <;> simp_all [lookup]
    · by_cases hk : j = k
      · subst hk
        simp [lookup, hj, Ne.symm hj]
      · simp_all [lookup]

/-- Unsetting a key changes one key only. -/
theorem get?_unset (b : Bindings) (key k : Key) :
    (b.unset key).get? k = if key = k then none else b.get? k :=
  lookup_filter key k b.entries

/-! ### Groups of a match -/

/-- Binds the groups from `index` on, for `n` indices, and takes away what is bound behind the last
group up to the first index without a value. -/
def updateFrom (b : Bindings) (kind : GroupKind) : Nat → Nat → List Text → Bindings
  | 0, _, _ => b
  | n + 1, index, g :: groups => updateFrom (b.set (.group kind index) g) kind n (index + 1) groups
  -- old groups are taken away as long as they follow each other
  | n + 1, index, [] =>
    match b.get? (.group kind index) with
    | some _ => updateFrom (b.unset (.group kind index)) kind n (index + 1) []
    | none => b

/-- Binds the groups of a match; a group that takes no part in it is empty. -/
def update (b : Bindings) (kind : GroupKind) (groups : List (Option Text)) : Bindings :=
  b.updateFrom kind groupLimit 0 (groups.map (·.getD []))

/-- What is bound to the group indices. -/
def groups (b : Bindings) (kind : GroupKind) : List (Option Text) :=
  (List.range groupLimit).map fun i => b.get? (.group kind i)

/-- The bindings with a value for a key, or without one. -/
def assign (b : Bindings) (key : Key) : Option Text → Bindings
  | some value => b.set key value
  | none => b.unset key

/-- Binds the group indices from `index` on as the list says. -/
def restoreFrom (b : Bindings) (kind : GroupKind) (index : Nat) : List (Option Text) → Bindings
  | [] => b
  | v :: vs => restoreFrom (b.assign (.group kind index) v) kind (index + 1) vs

/-- Binds the group indices as they were when `groups` was asked. -/
def restore (b : Bindings) (kind : GroupKind) (saved : List (Option Text)) : Bindings :=
  b.restoreFrom kind 0 (saved.take groupLimit)

/-! ### Variables and tables -/

/-- The value of a server variable. -/
def server? (b : Bindings) (v : ServerVariable) : Option Text := b.get? (.server v)

def setServer (b : Bindings) (v : ServerVariable) (value : Text) : Bindings :=
  b.set (.server v) value

/-- Binds the entries of a lookup table, later ones over earlier ones. -/
def addTable (b : Bindings) (table : Text) (rows : List (Text × Text)) : Bindings :=
  rows.foldl (fun b row => b.set (.entry table row.1) row.2) b

/-- The name and the value of a variable that a rule has set. -/
def setVariableOf? : Key × Text → Option (Text × Text)
  | (.env name, value) => some (name, value)
  | _ => none

/-- The variables that rules have set, in the order of their names. -/
def setVariables (b : Bindings) : List (Text × Text) :=
  (b.entries.filterMap setVariableOf?).mergeSort fun v w => Text.order v.1 w.1 != .gt

end Bindings

end UrlRewrite
