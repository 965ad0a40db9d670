import UrlRewrite.Regex.Program
import UrlRewrite.Text.CharClass

/-!
# Searching

A program is run on a text from its beginning. All ways through the program are followed at once, as
a list of threads with the preferred ones in front; two threads at the same instruction would do the
same from there on, so the one behind is dropped. A thread that accepts ends all threads behind it,
those in front of it may still find a match that is preferred.

The match begins at the beginning of the text and need not reach its end. `Program.run` gives the
positions noted by the preferred match, `Program.groups?` the texts between them.
-/

namespace UrlRewrite.Regex

/-- A place in a text, as conditions see it: the characters beside it, if there are any. -/
structure Place where
  before : Option Char
  after : Option Char
deriving DecidableEq, Repr

namespace Look

/-- Whether the characters on the two sides are in a word. -/
def wordSides (ascii : Bool) (p : Place) : Bool × Bool :=
  let inWord := if ascii then (fun c : Char => c.toNat < 128 && isWord c) else isWord
  (p.before.any inWord, p.after.any inWord)

/-- Whether the condition holds at a place. -/
def holds (l : Look) (p : Place) : Bool :=
  match l with
  | .textStart => p.before.isNone
  | .textEnd => p.after.isNone
  | .lineStart => p.before.all (· == '\n')
  | .lineEnd => p.after.all (· == '\n')
  | .crlfStart =>
    p.before.all fun c => c == '\n' || (c == '\r' && p.after != some '\n')
  | .crlfEnd =>
    p.after.all fun c => c == '\r' || (c == '\n' && p.before != some '\r')
  | .wordBorder ascii => let (l, r) := wordSides ascii p; l != r
  | .noWordBorder ascii => let (l, r) := wordSides ascii p; l == r
  | .wordStart ascii => let (l, r) := wordSides ascii p; !l && r
  | .wordEnd ascii => let (l, r) := wordSides ascii p; l && !r
  | .wordStartHalf ascii => !(wordSides ascii p).1
  | .wordEndHalf ascii => !(wordSides ascii p).2

end Look

/-- A way through the program: the instruction it has come to and the positions noted so far. -/
structure Thread where
  place : Nat
  noted : Array (Option Nat)
deriving Repr, Inhabited

namespace Program

/-- Follows the threads of `stack` to instructions that read or accept; `seen` holds the
instructions already reached, `found` the threads already there, latest first. -/
def follow (p : Program) (here : Place) (position : Nat) :
    Nat → List Thread → Array Bool → List Thread → List Thread
  | 0, _, _, found => found.reverse
  | _, [], _, found => found.reverse
  | fuel + 1, t :: stack, seen, found =>
    -- the first thread to reach an instruction is the preferred one
    if seen.getD t.place true then follow p here position fuel stack seen found
    else
      let seen := seen.setIfInBounds t.place true
      match p.code.getD t.place .accept with
      | .look l next =>
        if l.holds here then follow p here position fuel
          ({ t with place := next } :: stack) seen found
        else follow p here position fuel stack seen found
      | .note slot next =>
        let noted := t.noted.setIfInBounds slot (some position)
        follow p here position fuel (⟨next, noted⟩ :: stack) seen found
      | .choice targets =>
        -- the ways are in front of the other threads, in the order in which they are preferred
        let ways := targets.map fun n => { t with place := n }
        follow p here position fuel (ways ++ stack) seen found
      | _ => follow p here position fuel stack seen (t :: found)

/-- The threads that follow from the threads of `stack` without reading. -/
def reach (p : Program) (here : Place) (position : Nat) (stack : List Thread) : List Thread :=
  follow p here position (stack.length + p.branches) stack (Array.replicate p.code.size false) []

/-- The thread behind an instruction that reads the character. -/
def step? (p : Program) (c : Char) (t : Thread) : Option Thread :=
  match p.code.getD t.place .accept with
  | .char d next => if c = d then some { t with place := next } else none
  | .oneOf set next => if set.contains c then some { t with place := next } else none
  | _ => none

def accepts (p : Program) (t : Thread) : Bool := p.code.getD t.place .accept == .accept

/-- Runs the threads on the rest of the text. `best` is the end and the notes of the preferred match
among the threads that have already been ended. -/
def runFrom (p : Program) (before : Option Char) (position : Nat) (stack : List Thread)
    (best : Option (Nat × Thread)) : Text → Option (Nat × Thread)
  | [] =>
    let threads := p.reach ⟨before, none⟩ position stack
    ((threads.find? p.accepts).map (position, ·)).or best
  | c :: rest =>
    let threads := p.reach ⟨before, some c⟩ position stack
    let best := ((threads.find? p.accepts).map (position, ·)).or best
    match (threads.takeWhile fun t => !p.accepts t).filterMap (p.step? c) with
    | [] => best
    | stack => runFrom p (some c) (position + 1) stack best rest

/-- The end and the notes of the preferred match at the beginning of the text. -/
def run (p : Program) (s : Text) : Option (Nat × Thread) :=
  p.runFrom none 0 [⟨p.start, Array.replicate (2 * p.groups) none⟩] none s

/-- The text noted for a group. -/
def noted? (s : Text) (t : Thread) (index : Nat) : Option Text :=
  match t.noted.getD (2 * index) none, t.noted.getD (2 * index + 1) none with
  | some first, some last => some ((s.drop first).take (last - first))
  | _, _ => none

/-- The text of the preferred match at the beginning of `s`, and the texts of its groups; a group
that takes no part in the match has none. -/
def match? (p : Program) (s : Text) : Option (Text × List (Option Text)) :=
  (p.run s).map fun (last, t) =>
    (s.take last, (List.range (p.groups - 1)).map fun i => noted? s t (i + 1))

end Program

end UrlRewrite.Regex
