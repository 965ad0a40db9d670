import Std.Data.HashMap
import UrlRewrite.Regex.Expr

/-!
# The size of an expression

An expression is searched with as a machine that reads bytes, and the size of that machine is
limited: a short text such as `(?:a{1000}){1000}` may describe a very large one. This module goes
through the building of the machine and counts (`Tally`) without keeping it.

Each state takes `stateSize` bytes; a state with several ways out takes some more for each of them.
A set of characters is a machine over the bytes of their UTF-8 forms: forwards its states are shared
where the same endings follow, backwards where the same beginnings precede. They are shared as far
as a table remembers them that has a limited number of slots (`Sharing.state`), so that the size of
a set depends a little on how many states are there already. An expression is too large if its
machine is beyond `sizeLimit` in one of the two directions.

Going through all states of a set is expensive, so `Expr.fits` first takes `Part.boundingSet` in its
place, which is cheap and never counts less.
-/

namespace UrlRewrite.Regex

/-- The direction in which a machine reads. -/
inductive Direction where
  | forward
  | backward
deriving DecidableEq, Repr

/-- The largest size that is accepted: ten mebibytes. -/
def sizeLimit : Nat := 10 * 1024 * 1024

/-- The size of a state. -/
def stateSize : Nat := 32

/-- What a state that has the choice between `n` others takes beyond its own size. -/
def choiceSize (n : Nat) : Nat := 4 * n

/-- What a state that reads a byte in one of `n` ranges takes beyond its own size. -/
def branchSize (n : Nat) : Nat := 8 * n

/-- What has been built of a machine: the number of its states, and what they take beyond their own
size. -/
structure Tally where
  states : Nat := 0
  extra : Nat := 0
deriving DecidableEq, Repr

namespace Tally

def size (t : Tally) : Nat := stateSize * t.states + t.extra

def isOver (t : Tally) : Bool := sizeLimit < t.size

/-- One more state, which takes `extra` beyond its own size. -/
def state (extra : Nat) (t : Tally) : Tally := ⟨t.states + 1, t.extra + extra⟩

def plus (s t : Tally) : Tally := ⟨s.states + t.states, s.extra + t.extra⟩

end Tally

/-- A part of a machine, as what building it adds to what has been built. -/
structure Part where
  build : Tally → Tally

namespace Part

/-- A single state, which takes `extra` beyond its own size. -/
def state (extra : Nat) : Part := ⟨Tally.state extra⟩

/-- A part whose size does not depend on what has been built. -/
def ofTally (t : Tally) : Part := ⟨t.plus⟩

/-- Nothing at all. -/
def nothing : Part := ⟨id⟩

/-- One after the other. -/
def andThen (first second : Part) : Part := ⟨fun t => second.build (first.build t)⟩

/-- Builds the same `n` times over, unless the limit is passed before. -/
def buildTimes (build : Tally → Tally) : Nat → Tally → Tally
  | 0, t => t
  | n + 1, t => if t.isOver then t else buildTimes build n (build t)

/-- The same `n` times over. -/
def times (n : Nat) (part : Part) : Part := ⟨buildTimes part.build n⟩

end Part

/-! ### Sets -/

/-- A range of bytes. -/
abbrev ByteRange := Nat × Nat

/-- The UTF-8 form of a code point. -/
def utf8Bytes (n : Nat) : List Nat :=
  if n < 0x80 then [n]
  else if n < 0x800 then [0xC0 + n / 64, 0x80 + n % 64]
  else if n < 0x10000 then [0xE0 + n / 4096, 0x80 + n / 64 % 64, 0x80 + n % 64]
  else [0xF0 + n / 262144, 0x80 + n / 4096 % 64, 0x80 + n / 64 % 64, 0x80 + n % 64]

/-- Where a range of code points has to be cut so that the forms of each part are a product of byte
ranges: behind the last code point of a length, and where a leading byte changes within a part. -/
def cutPoint? (first last : Nat) : Option Nat :=
  match [0x7F, 0x7FF, 0xFFFF].find? fun n => first ≤ n && n < last with
  | some n => some n
  | none =>
    if last < 0x80 then none
    else
      [64, 4096, 262144].findSome? fun block =>
        if first / block = last / block then none
        else if first % block ≠ 0 then some (first / block * block + block - 1)
        else if last % block ≠ block - 1 then some (last / block * block - 1)
        else none

/-- The forms of a range of code points, as sequences of byte ranges. Sixteen cuts are more than a
range can need. -/
def byteSequences (first last : Nat) : Nat → List (List ByteRange)
  | 0 => [(utf8Bytes first).zip (utf8Bytes last)]
  | n + 1 =>
    match cutPoint? first last with
    | some cut => byteSequences first cut n ++ byteSequences (cut + 1) last n
    | none => [(utf8Bytes first).zip (utf8Bytes last)]

/-- The forms of the members of a set. -/
def setSequences (set : CharSet) : List (List ByteRange) :=
  set.charRanges.flatMap fun (first, last) => byteSequences first last 16

/-- Sequences that stand side by side and begin with the same range, put together under it. -/
def groupByHead : List (List ByteRange) → List (ByteRange × List (List ByteRange))
  | [] => []
  | [] :: more => groupByHead more
  | (range :: tail) :: more =>
    match groupByHead more with
    | (other, tails) :: groups =>
      if range = other then (range, tail :: tails) :: groups
      else (range, [tail]) :: (other, tails) :: groups
    | [] => [(range, [tail])]

/-- The hash of a list of numbers: each is mixed into the product of those in front of it. -/
def mixedHash (numbers : List Nat) : UInt64 :=
  numbers.foldl (fun h n => (h ^^^ n.toUInt64) * 1099511628211) 14695981039346656037

/-- What has been built, and a table of states that may be shared. A state has a key, which says all
that matters about it; the hash of the key picks a slot, and a slot holds the key and number of one
state. -/
structure Sharing where
  tally : Tally
  slots : Std.HashMap Nat (List Nat × Nat) := {}

namespace Sharing

/-- The number of the state that its slot holds, if the keys agree. -/
def find? (slot : Nat) (key : List Nat) (s : Sharing) : Option Nat :=
  match s.slots[slot]? with
  | some (found, number) => if found = key then some number else none
  | none => none

/-- The state with that key: the one in its slot, or a new one, which takes the slot. -/
def state (slotCount : UInt64) (key : List Nat) (extra : Nat) (s : Sharing) : Nat × Sharing :=
  let slot := (mixedHash key % slotCount).toNat
  match s.find? slot key with
  | some number => (number, s)
  | none =>
    let ⟨tally, slots⟩ := s
    (tally.states, ⟨tally.state extra, slots.insert slot (key, tally.states)⟩)

end Sharing

/-- The state from which a forward machine reads one of the sequences, of at most `n` ranges, to the
state `last`; the states behind it are built first. Its key is its ways out. -/
def forwardState (last : Nat) : Nat → List (List ByteRange) → Sharing → Nat × Sharing
  | 0, _, s => (last, s)
  | n + 1, sequences, s =>
    let groups := groupByHead sequences
    let (reversed, s) := groups.foldl
      (fun (reversed, s) (range, tails) =>
        let (next, s) := if tails.all List.isEmpty then (last, s) else forwardState last n tails s
        (next :: range.2 :: range.1 :: reversed, s))
      ([], s)
    s.state 10000 reversed.reverse (branchSize groups.length)

/-- The states that read a sequence backwards from the state `last`. The key of a state is the state
it leads to and the range it reads. -/
def backwardStates (last : Nat) (s : Sharing) (sequence : List ByteRange) : Sharing :=
  (sequence.foldl (fun (next, s) range => s.state 1000 [next, range.1, range.2] 0) (last, s)).2

/-- The part that reads a character of a set. -/
def Part.ofSet (direction : Direction) (set : CharSet) : Part :=
  if set.isAscii then (Part.state 0).andThen (Part.state (branchSize set.ranges.length))
  else
    let sequences := setSequences set
    match direction with
    | .forward =>
      ⟨fun t => (forwardState t.states 4 sequences ⟨t.state 0, {}⟩).2.tally⟩
    | .backward =>
      let choice := choiceSize sequences.length
      ⟨fun t =>
        (sequences.foldl (backwardStates (t.states + 1)) ⟨(t.state choice).state 0, {}⟩).tally⟩

/-- A part that stands for the part of a set and is not smaller: no sequence shares a state with
another. -/
def Part.boundingSet (set : CharSet) : Part :=
  let sequences := setSequences set
  let ranges := sequences.flatten.length
  .ofTally ⟨3 + ranges, choiceSize sequences.length + branchSize ranges⟩

/-! ### Words -/

/-- Words cut at the empty ones among them. -/
def cutAtEmpty : List (List Nat) → List (List (List Nat))
  | [] => [[]]
  | [] :: rest => [] :: cutAtEmpty rest
  | word :: rest =>
    match cutAtEmpty rest with
    | [] => [[word]]
    | first :: others => (word :: first) :: others

/-- Of several empty words at the beginning one counts. -/
def dropRepeatedEmpty : List (List (List Nat)) → List (List (List Nat))
  | [] :: [] :: third :: rest => dropRepeatedEmpty ([] :: third :: rest)
  | groups => groups

/-- The first letters of words, each once. -/
def firstLetters (words : List (List Nat)) : List Nat := (words.filterMap List.head?).eraseDups

/-- The machine for words that share their beginnings, where they are preferred in order; no word
has more than `n` letters. A place where words go on is a choice between the words in front of one
that ends there, that end, and the words behind it; a place where all end takes nothing. -/
def wordStates : Nat → List (List Nat) → Tally
  | 0, _ => {}
  | n + 1, words =>
    if words.all List.isEmpty then {}
    else
      -- a word that ends here is preferred to those behind it, and not to those in front of it
      let groups := dropRepeatedEmpty (cutAtEmpty words)
      let going := groups.filter (!·.isEmpty)
      let place : Tally := Tally.state (choiceSize (going.length + (groups.length - 1))) {}
      going.foldl
        (fun t group =>
          let letters := firstLetters group
          let t := t.state (if letters.length = 1 then 0 else branchSize letters.length)
          letters.foldl
            (fun t b =>
              t.plus (wordStates n ((group.filter (·.head? == some b)).map (·.drop 1)))) t)
        place

/-- The bytes of a text. -/
def textBytes (chars : Text) : List Nat := chars.flatMap fun c => utf8Bytes c.toNat

/-- The texts of branches that are all literals. -/
def literals? (branches : List Expr) : Option (List Text) :=
  branches.mapM fun
    | .literal chars => some chars
    | _ => none

/-- The machine for texts that share their beginnings, or backwards their ends. -/
def textStates (direction : Direction) (texts : List Text) : Tally :=
  let words := texts.map fun t =>
    if direction = .forward then textBytes t else (textBytes t).reverse
  (wordStates (words.foldl (fun n w => max n w.length) 0 + 1) words).state 0

namespace Expr

/-! ### Expressions -/

mutual

/-- The part for an expression; `set` gives the parts for sets. -/
def part (direction : Direction) (set : CharSet → Part) : Expr → Part
  | .empty => .state 0
  | .literal chars => .ofTally ⟨(textBytes chars).length, 0⟩
  | .oneOf s _ => set s
  | .look _ => .state 0
  | .capture _ body =>
    let inside := part direction set body
    if direction = .forward then ((Part.state 0).andThen inside).andThen (.state 0) else inside
  | .concat parts =>
    if direction = .forward then partInOrder direction set parts
    else partInReverse direction set parts
  | .alternate branches =>
    -- branches of texts share their beginnings
    match literals? branches with
    | some texts => .ofTally (textStates direction texts)
    | none => partOfBranches direction set branches.length 0 branches
  | .repeated least most _ body =>
    let inside := part direction set body
    let choice := Part.state (choiceSize 2)
    match most with
    | none =>
      if least = 0 then
        -- a body that may be empty has a choice of its own, so that it is not gone round for ever
        if body.alwaysConsumes then choice.andThen inside
        else ((inside.andThen choice).andThen choice).andThen (.state 0)
      else (inside.times least).andThen choice
    | some high =>
      let copies := if least = 0 then .state 0 else inside.times least
      if high = least then copies
      else if least = 0 ∧ high = 1 then (choice.andThen inside).andThen (.state 0)
      else (copies.andThen (.state 0)).andThen ((choice.andThen inside).times (high - least))

def partInOrder (direction : Direction) (set : CharSet → Part) : List Expr → Part
  | [] => .nothing
  | e :: es => (part direction set e).andThen (partInOrder direction set es)

def partInReverse (direction : Direction) (set : CharSet → Part) : List Expr → Part
  | [] => .nothing
  | e :: es => (partInReverse direction set es).andThen (part direction set e)

/-- The branches of an alternation of `count`, the first given being number `index`. The choice
between them and their common end come behind the second one. -/
def partOfBranches (direction : Direction) (set : CharSet → Part) (count index : Nat) :
    List Expr → Part
  | [] => .nothing
  | e :: es =>
    let joints := if index = 1 then (Part.state (choiceSize count)).andThen (.state 0) else .nothing
    ((part direction set e).andThen joints).andThen
      (partOfBranches direction set count (index + 1) es)

end

mutual

/-- Whether every match has to begin at the beginning of the text, or to end at its end. -/
def isAnchored (direction : Direction) : Expr → Bool
  | .look l => l == (if direction = .forward then .textStart else .textEnd)
  | .repeated least _ _ body => 0 < least && isAnchored direction body
  | .capture _ body => isAnchored direction body
  | .concat parts =>
    if direction = .forward then isFirstAnchored parts else isLastAnchored parts
  | .alternate branches => !branches.isEmpty && areAnchored direction branches
  | _ => false

/-- Whether that holds of a part in front of which nothing is read. -/
def isFirstAnchored : List Expr → Bool
  | [] => false
  | e :: es => isAnchored .forward e || (e.maxLength == some 0 && isFirstAnchored es)

/-- Whether that holds of a part behind which nothing is read. -/
def isLastAnchored : List Expr → Bool
  | [] => false
  | e :: es => isLastAnchored es || (maxSum es == some 0 && isAnchored .backward e)

def areAnchored (direction : Direction) : List Expr → Bool
  | [] => true
  | e :: es => isAnchored direction e && areAnchored direction es

end

/-- The whole machine: what finds the beginning of a match, unless it is fixed, the expression,
forwards between the notes of the whole match, and the end. -/
def machine (direction : Direction) (set : CharSet → Part) (e : Expr) : Tally :=
  let start :=
    if e.isAnchored direction then Part.state 0
    else ((Part.state (choiceSize 2)).andThen (.state 0)).andThen (.state (branchSize 1))
  ((start.andThen (part direction set (.capture 0 e))).andThen (.state 0)).build {}

/-- The number of branches from which on an alternation of texts is a list of words, which needs no
machine. -/
def wordListLength : Nat := 3000

/-- Whether the expression is a list of words. -/
def isWordList : Expr → Bool
  | .alternate branches => wordListLength ≤ branches.length && (literals? branches).isSome
  | _ => false

/-- Whether the machine for the expression keeps within the limit in both directions. -/
def fits (e : Expr) : Bool :=
  e.isWordList || [.forward, .backward].all fun direction =>
    !(e.machine direction Part.boundingSet).isOver ||
      !(e.machine direction (Part.ofSet direction)).isOver

end Expr

end UrlRewrite.Regex
