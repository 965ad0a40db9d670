import UrlRewrite.Text.CharSet

/-!
# Regular expressions

The expressions that are searched with: modes have been worked into them, and they are built by
functions that keep them in a simple form.

* `Expr.concat'` has no nested concatenation, no empty part, and no two literals side by side.
* `Expr.alternate'` has no nested alternation, is a set if all branches are single characters or all
  are sets, and puts parts that all branches begin with in front of the alternation.
* `Expr.repeated'` repeats what can only be empty at most once, and is no repetition where the
  counts say zero or exactly one.

Putting common parts in front can change which of two matches is preferred, when a common part can
match in several ways. The form is therefore part of the meaning of an expression.
-/

namespace UrlRewrite.Regex

/-- Conditions on the characters before and after a place. The conditions about words have a form
that knows ASCII words only. -/
inductive Look where
  | textStart
  | textEnd
  | lineStart
  | lineEnd
  | crlfStart
  | crlfEnd
  | wordBorder (ascii : Bool)
  | noWordBorder (ascii : Bool)
  | wordStart (ascii : Bool)
  | wordEnd (ascii : Bool)
  | wordStartHalf (ascii : Bool)
  | wordEndHalf (ascii : Bool)
deriving DecidableEq, Repr

/-- A regular expression in simple form. A set is marked if it was written where Unicode mode is
off; it then is not the same part as an equal set written elsewhere. -/
inductive Expr where
  | empty
  | literal (chars : Text)
  | oneOf (set : CharSet) (ascii : Bool)
  | look (l : Look)
  | repeated (least : Nat) (most : Option Nat) (greedy : Bool) (body : Expr)
  | capture (index : Nat) (body : Expr)
  | concat (parts : List Expr)
  | alternate (branches : List Expr)
deriving Repr, Inhabited

namespace Expr

mutual

/-- Structural equality. -/
def same : Expr → Expr → Bool
  | .empty, .empty => true
  | .literal s, .literal t => s == t
  | .oneOf s a, .oneOf t b => s == t && a == b
  | .look l, .look k => l == k
  | .repeated a b g e, .repeated c d h f => a == c && b == d && g == h && same e f
  | .capture i e, .capture j f => i == j && same e f
  | .concat es, .concat fs => sameList es fs
  | .alternate es, .alternate fs => sameList es fs
  | _, _ => false

def sameList : List Expr → List Expr → Bool
  | [], [] => true
  | e :: es, f :: fs => same e f && sameList es fs
  | _, _ => false

end

mutual

/-- The least number of characters of a match; `none` if a part matches nothing at all. -/
def minLength : Expr → Option Nat
  | .empty => some 0
  | .literal chars => some chars.length
  | .oneOf set _ => if set.isEmpty then none else some 1
  | .look _ => some 0
  | .repeated least _ _ body => (minLength body).map (least * ·)
  | .capture _ body => minLength body
  | .concat parts => minSum parts
  | .alternate branches => minLeast branches

def minSum : List Expr → Option Nat
  | [] => some 0
  | e :: es => do some ((← minLength e) + (← minSum es))

def minLeast : List Expr → Option Nat
  | [] => none
  | [e] => minLength e
  | e :: es => do some (min (← minLength e) (← minLeast es))

end

mutual

/-- The greatest number of characters of a match; `none` if there is no bound. -/
def maxLength : Expr → Option Nat
  | .empty => some 0
  | .literal chars => some chars.length
  | .oneOf set _ => if set.isEmpty then none else some 1
  | .look _ => some 0
  | .repeated _ most _ body => do some ((← most) * (← maxLength body))
  | .capture _ body => maxLength body
  | .concat parts => maxSum parts
  | .alternate branches => maxGreatest branches

def maxSum : List Expr → Option Nat
  | [] => some 0
  | e :: es => do some ((← maxLength e) + (← maxSum es))

def maxGreatest : List Expr → Option Nat
  | [] => none
  | [e] => maxLength e
  | e :: es => do some (max (← maxLength e) (← maxGreatest es))

end

/-- Whether every match has at least one character. -/
def alwaysConsumes (e : Expr) : Bool :=
  match e.minLength with
  | some n => 0 < n
  | none => false

mutual

/-- The greatest index of a capture, 0 if there is none. -/
def lastCapture : Expr → Nat
  | .repeated _ _ _ body => lastCapture body
  | .capture index body => max index (lastCapture body)
  | .concat parts => lastCaptureList parts
  | .alternate branches => lastCaptureList branches
  | _ => 0

def lastCaptureList : List Expr → Nat
  | [] => 0
  | e :: es => max (lastCapture e) (lastCaptureList es)

end

/-- The expression that matches nothing. -/
def fail : Expr := .oneOf CharSet.empty true

/-- One character of a set; a literal if the set has one member. -/
def ofSet (set : CharSet) (ascii : Bool) : Expr :=
  match set.only? with
  | some c => .literal [c]
  | none => if set.isEmpty then fail else .oneOf set ascii

/-- Literals side by side become one. -/
def mergeLiterals : List Expr → List Expr
  | [] => []
  | .literal s :: rest =>
    match mergeLiterals rest with
    | .literal t :: more => .literal (s ++ t) :: more
    | merged => .literal s :: merged
  | e :: rest => e :: mergeLiterals rest

/-- One after the other. -/
def concat' (parts : List Expr) : Expr :=
  let flat := parts.flatMap fun
    | .concat inner => inner
    | .empty => []
    | e => [e]
  match mergeLiterals flat with
  | [] => .empty
  | [e] => e
  | merged => .concat merged

/-- How many parts two lists have in common at their beginning. -/
def commonLength : List Expr → List Expr → Nat
  | e :: es, f :: fs => if same e f then commonLength es fs + 1 else 0
  | _, _ => 0

/-- The parts of a concatenation. -/
def parts? : Expr → Option (List Expr)
  | .concat parts => some parts
  | _ => none

/-- The only character of a literal. -/
def char? : Expr → Option Char
  | .literal [c] => some c
  | _ => none

def set? : Expr → Option CharSet
  | .oneOf set _ => some set
  | _ => none

/-- Branches that are all single characters, or all sets, are one set. -/
def asSet? (branches : List Expr) : Option CharSet :=
  match branches.mapM char? with
  | some chars => some (CharSet.ofCodePoints (chars.map (·.toNat)))
  | none => (branches.mapM set?).map fun sets => sets.foldl CharSet.union CharSet.empty

/-- The parts that all branches begin with, and what is left of the branches. -/
def factor? (branches : List Expr) : Option (List Expr × List (List Expr)) :=
  match branches.mapM parts? with
  | some (first :: others) =>
    let n := others.foldl (fun n parts => commonLength (first.take n) parts) first.length
    if n = 0 then none else some (first.take n, (first :: others).map (·.drop n))
  | _ => none

def flatBranches (branches : List Expr) : List Expr :=
  branches.flatMap fun
    | .alternate inner => inner
    | e => [e]

/-- One of the branches, the earlier ones preferred; no parts are put in front. -/
def alternateFlat (branches : List Expr) : Expr :=
  match flatBranches branches with
  | [] => fail
  | [e] => e
  | flat =>
    match asSet? flat with
    | some set => ofSet set false
    | none => .alternate flat

/-- One of the branches, the earlier ones preferred. -/
def alternate' (branches : List Expr) : Expr :=
  match alternateFlat branches with
  | .alternate flat =>
    match factor? flat with
    | some (common, rests) => concat' (common ++ [alternateFlat (rests.map concat')])
    | none => .alternate flat
  | e => e

/-- A part repeated; what can only be empty is repeated at most once. -/
def repeated' (least : Nat) (most : Option Nat) (greedy : Bool) (body : Expr) : Expr :=
  let onlyEmpty := body.maxLength == some 0
  let low := if onlyEmpty then min least 1 else least
  let high := if onlyEmpty then some ((most.map (min · 1)).getD 1) else most
  if high = some 0 then .empty
  else if low = 1 ∧ high = some 1 then body
  else .repeated low high greedy body

end Expr

end UrlRewrite.Regex
