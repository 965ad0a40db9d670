import UrlRewrite.Text.Basic

/-!
# Sets of characters

A set of characters is kept as its *borders*: the ascending code points at which membership changes,
the first border opening the set. `[97, 123]` is the set of the letters `a` to `z`. All operations
on two sets are one merge of their borders, `CharSet.combine`, under a Boolean function.

The surrogate code points are not characters. An interval may pass over them, from a character below
to one above, but no interval begins or ends among them: `CharSet.trim` cuts such ends off. A set
without borders is therefore exactly the empty one. Two intervals that have nothing but the
surrogates between them stay two.
-/

namespace UrlRewrite

/-- A set of characters, given by the ascending code points at which membership changes. -/
structure CharSet where
  borders : List Nat
deriving DecidableEq, Repr, Inhabited

namespace CharSet

/-- Whether `n` is inside, if what stands in front of the first border is as `inside` says. -/
def insideFrom (inside : Bool) : List Nat → Nat → Bool
  | [], _ => inside
  | b :: bs, n => if n < b then inside else insideFrom (!inside) bs n

/-- Whether the character belongs to the set. -/
def contains (s : CharSet) (c : Char) : Bool := insideFrom false s.borders c.toNat

/-- Merges two lists of borders in at most as many steps as there are borders: `l` and `r` say
whether one is inside the left and the right set, and a border is kept where the value of `f`
changes. -/
def mergeFrom (f : Bool → Bool → Bool) : Nat → Bool → Bool → List Nat → List Nat → List Nat
  | 0, _, _, _, _ => []
  | _ + 1, _, _, [], [] => []
  | n + 1, l, r, x :: xs, [] =>
    let rest := mergeFrom f n (!l) r xs []
    if f l r = f (!l) r then rest else x :: rest
  | n + 1, l, r, [], y :: ys =>
    let rest := mergeFrom f n l (!r) [] ys
    if f l r = f l (!r) then rest else y :: rest
  -- the lesser border is taken, and both of them if they are the same
  | n + 1, l, r, x :: xs, y :: ys =>
    if x < y then
      let rest := mergeFrom f n (!l) r xs (y :: ys)
      if f l r = f (!l) r then rest else x :: rest
    else if y < x then
      let rest := mergeFrom f n l (!r) (x :: xs) ys
      if f l r = f l (!r) then rest else y :: rest
    else
      let rest := mergeFrom f n (!l) (!r) xs ys
      if f l r = f (!l) (!r) then rest else x :: rest

/-- Cuts surrogates off the ends of intervals, and drops the intervals that have nothing else. -/
def trim : List Nat → List Nat
  | a :: b :: rest =>
    let first := if 0xD800 ≤ a ∧ a < 0xE000 then 0xE000 else a
    let stop := if 0xD800 < b ∧ b ≤ 0xE000 then 0xD800 else b
    if first < stop then first :: stop :: trim rest else trim rest
  | _ => []

/-- The set of the characters `c` with `f (c ∈ s) (c ∈ t)`, for an `f` that is false of two
falses. -/
def combine (f : Bool → Bool → Bool) (s t : CharSet) : CharSet :=
  ⟨trim (mergeFrom f (s.borders.length + t.borders.length) false false s.borders t.borders)⟩

def empty : CharSet := ⟨[]⟩

/-- All characters, in one interval. -/
def all : CharSet := ⟨[0, 0x110000]⟩

def union (s t : CharSet) : CharSet := combine (· || ·) s t

def inter (s t : CharSet) : CharSet := combine (· && ·) s t

def diff (s t : CharSet) : CharSet := combine (fun a b => a && !b) s t

/-- The characters in exactly one of the two sets. -/
def symmDiff (s t : CharSet) : CharSet := combine (fun a b => a != b) s t

/-- Whether one interval ends and another begins beside the surrogates. -/
def isPartedBySurrogates (s : CharSet) : Bool :=
  s.borders.contains 0xD800 && s.borders.contains 0xE000

/-- The characters outside the set: what lies before, between and behind its intervals. Between two
intervals that only the surrogates part lie, by convention, the two characters beside the
surrogates. -/
def compl (s : CharSet) : CharSet :=
  let outside := diff all s
  if s.isPartedBySurrogates then union outside ⟨[0xD7FF, 0xE001]⟩ else outside

/-- The characters from `first` to `last`, both included. -/
def range (first last : Char) : CharSet :=
  if first.toNat ≤ last.toNat then ⟨[first.toNat, last.toNat + 1]⟩ else empty

def single (c : Char) : CharSet := ⟨[c.toNat, c.toNat + 1]⟩

/-- The characters with one of the code points, which may come in any order. -/
def ofCodePoints (points : List Nat) : CharSet :=
  ⟨(points.mergeSort).foldr
    (fun n bs =>
      match bs with
      | b :: rest =>
        if b = n + 1 then n :: rest else if b = n then b :: rest else n :: (n + 1) :: bs
      | [] => [n, n + 1])
    []⟩

def isEmpty (s : CharSet) : Bool := s.borders.isEmpty

/-- The set as inclusive ranges of code points, in ascending order. -/
def rangesOf : List Nat → List (Nat × Nat)
  | a :: b :: rest => (a, b - 1) :: rangesOf rest
  | _ => []

def ranges (s : CharSet) : List (Nat × Nat) := rangesOf s.borders

/-- The set as inclusive ranges of characters: what passes over the surrogates is two ranges. -/
def charRanges (s : CharSet) : List (Nat × Nat) :=
  s.ranges.flatMap fun (first, last) =>
    if first < 0xD800 ∧ 0xDFFF < last then [(first, 0xD7FF), (0xE000, last)] else [(first, last)]

/-- The only member of a set that has exactly one. -/
def only? (s : CharSet) : Option Char :=
  match s.borders with
  | [a, b] => if b = a + 1 then some (Char.ofNat a) else none
  | _ => none

/-- Whether all members are ASCII characters. -/
def isAscii (s : CharSet) : Bool :=
  match s.borders.getLast? with
  | some b => b ≤ 128
  | none => true

/-- Reads the distances between successive borders, in decimal and separated by spaces or line
breaks. The second part of the state is the last border, the third the digits read since. -/
def ofDistances (table : String) : CharSet :=
  let close : List Nat × Nat × Option Nat → List Nat × Nat × Option Nat
    | (borders, last, some distance) => ((last + distance) :: borders, last + distance, none)
    | (borders, last, none) => (borders, last, none)
  let final := table.toList.foldl
    (fun state c =>
      if c = ' ' ∨ c = '\n' then close state
      else (state.1, state.2.1, some (state.2.2.getD 0 * 10 + (c.toNat - 48))))
    (([], 0, none) : List Nat × Nat × Option Nat)
  ⟨(close final).1.reverse⟩

end CharSet

end UrlRewrite
