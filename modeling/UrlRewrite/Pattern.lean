import UrlRewrite.Bindings
import UrlRewrite.EvalError
import UrlRewrite.Regex.Basic

/-!
# Patterns

What the text of a condition is tested with: a regular expression, a comparison with a text (`<`,
`>=`, …), or a comparison with an integer (`-lt`, `-ge`, …). An exclamation mark in front negates a
pattern. Integer comparisons are recognised first, then comparisons of texts; everything else is a
regular expression. The pattern of a rule is always one.

Only a match of a regular expression that is not negated changes bindings: the groups become those
of the match.
-/

namespace UrlRewrite

/-- How two values are compared. -/
inductive Comparison where
  | equal
  | notEqual
  | less
  | lessOrEqual
  | greater
  | greaterOrEqual
deriving DecidableEq, Repr

namespace Comparison

def all : List Comparison := [equal, notEqual, less, lessOrEqual, greater, greaterOrEqual]

/-- Whether the comparison holds of two values that are ordered like this. -/
def holds : Comparison → Ordering → Bool
  | equal, o => o == .eq
  | notEqual, o => o != .eq
  | less, o => o == .lt
  | lessOrEqual, o => o != .gt
  | greater, o => o == .gt
  | greaterOrEqual, o => o != .lt

/-- How a comparison of texts is written. -/
def symbol : Comparison → Text
  | equal => "=".toList
  | notEqual => "!=".toList
  | less => "<".toList
  | lessOrEqual => "<=".toList
  | greater => ">".toList
  | greaterOrEqual => ">=".toList

/-- How a comparison of integers is written. -/
def mnemonic : Comparison → Text
  | equal => "-eq".toList
  | notEqual => "-ne".toList
  | less => "-lt".toList
  | lessOrEqual => "-le".toList
  | greater => "-gt".toList
  | greaterOrEqual => "-ge".toList

/-- The comparison of texts that `s` begins with, and what follows it. The longer symbols come
first. -/
def takeSymbol? (s : Text) : Option (Comparison × Text) :=
  [lessOrEqual, greaterOrEqual, less, greater, equal].findSome? fun c =>
    (List.isPrefixOf? c.symbol s).map (c, ·)

/-- The comparison of integers that `s` begins with, and what follows it. -/
def takeMnemonic? (s : Text) : Option (Comparison × Text) :=
  all.findSome? fun c => (List.isPrefixOf? c.mnemonic s).map (c, ·)

/-- What a comparison has been found by is in front of the rest. -/
theorem eq_append_of_findSome? {cs : List Comparison} {name : Comparison → Text} {s rest : Text}
    {c : Comparison}
    (h : (cs.findSome? fun c => (List.isPrefixOf? (name c) s).map (c, ·)) = some (c, rest)) :
    s = name c ++ rest := by
  obtain ⟨d, -, hd⟩ := List.exists_of_findSome?_eq_some h
  obtain ⟨behind, hbehind, heq⟩ := Option.map_eq_some_iff.1 hd
  obtain ⟨rfl, rfl⟩ := Prod.mk.inj heq
  exact Text.eq_append_of_isPrefixOf? hbehind

theorem eq_append_of_takeMnemonic? {s rest : Text} {c : Comparison}
    (h : takeMnemonic? s = some (c, rest)) : s = c.mnemonic ++ rest :=
  eq_append_of_findSome? h

end Comparison

/-- Why a text is no pattern. -/
inductive PatternError where
  | invalidRegex (source : Text) (cause : RegexError)
  | invalidInteger (operand : Text)
  | empty
deriving DecidableEq, Repr

namespace PatternError

def message : PatternError → String
  | invalidRegex source cause => "Invalid regex " ++ Text.quoted source ++ ": " ++ cause.message
  | invalidInteger operand => "Invalid integer operand " ++ Text.quoted operand
  | empty => "Empty pattern"

end PatternError

/-- A test for texts. -/
inductive Pattern where
  | regex (negated : Bool) (r : Regex)
  | lexical (negated : Bool) (c : Comparison) (operand : Text)
  | integral (negated : Bool) (c : Comparison) (operand : Int)
deriving DecidableEq

namespace Pattern

/-- Takes off an exclamation mark in front. -/
def takeNegation : Text → Bool × Text
  | '!' :: rest => (true, rest)
  | s => (false, s)

theorem takeNegation_suffix (s : Text) : (takeNegation s).2 <:+ s := by
  rw [takeNegation.eq_def]
  split
  · exact List.suffix_cons _ _
  · exact List.suffix_refl _

/-- Whether a text is the operand of an integer comparison: digits of any script, perhaps with a
sign. -/
def isOperand (s : Text) : Bool :=
  let digits := match s with
    | '+' :: rest => rest
    | '-' :: rest => rest
    | _ => s
  !digits.isEmpty && digits.all isDigit

/-- Reads a regular expression, perhaps negated: the pattern of a rule. -/
def readRegex (s : Text) : Except PatternError Pattern :=
  let (negated, source) := takeNegation s
  match Regex.read source with
  | .ok r => .ok (.regex negated r)
  | .error e => .error (.invalidRegex source e)

/-- The parts of a comparison of integers: its negation, its kind and its operand. -/
def integralParts? (s : Text) : Option (Bool × Comparison × Text) :=
  let (negated, rest) := takeNegation s
  match Comparison.takeMnemonic? rest with
  | none => none
  | some (c, rest) =>
    let operand := Text.trimStart rest
    if isOperand operand then some (negated, c, operand) else none

/-- The parts of a comparison of texts: its negation, its kind and its operand. -/
def lexicalParts? (s : Text) : Option (Bool × Comparison × Text) :=
  let (negated, rest) := takeNegation s
  (Comparison.takeSymbol? rest).map fun (c, operand) => (negated, c, operand)

/-- Reads the pattern of a condition. -/
def read (s : Text) : Except PatternError Pattern :=
  if s.isEmpty then .error .empty
  else
    -- a comparison of integers is tried first, then one of texts, and any other text is an
    -- expression
    match integralParts? s with
    | some (negated, c, operand) =>
      match Text.readInt Text.maxInt64 operand with
      | .ok n => .ok (.integral negated c n)
      | .error _ => .error (.invalidInteger operand)
    | none =>
      match lexicalParts? s with
      | some (negated, c, operand) => .ok (.lexical negated c operand)
      | none => readRegex s

def isNegated : Pattern → Bool
  | regex negated _ => negated
  | lexical negated _ _ => negated
  | integral negated _ _ => negated

/-- How a pattern is shown. -/
def written (p : Pattern) : Text :=
  let body := match p with
    | regex _ r => r.source
    | lexical _ c operand => c.symbol ++ operand
    | integral _ c operand => c.mnemonic ++ ' ' :: Text.ofInt operand
  if p.isNegated then '!' :: body else body

/-- The order of two texts, by code points or, without regard to case, by those of their
foldings. -/
def textOrder (ignoreCase : Bool) (s t : Text) : Ordering :=
  if ignoreCase then Text.order (Text.foldCase s) (Text.foldCase t) else Text.order s t

/-- The groups of a match: the whole match first. -/
def allGroups (m : Text × List (Option Text)) : List (Option Text) := some m.1 :: m.2

/-- Tests a text: whether the pattern holds of it, and the bindings after the test. -/
def test (p : Pattern) (ignoreCase : Bool) (kind : GroupKind) (s : Text) (b : Bindings) :
    Except EvalError (Bool × Bindings) :=
  match p with
  | regex negated r =>
    match r.match? ignoreCase s with
    | none => .ok (negated, b)
    -- a negated pattern does not hold of what it matches, and binds no groups
    | some m => .ok (!negated, if negated then b else b.update kind (allGroups m))
  | lexical negated c operand => .ok (c.holds (textOrder ignoreCase s operand) != negated, b)
  | integral negated c operand =>
    match Text.readInt Text.maxInt64 (Text.trim s) with
    | .ok n => .ok (c.holds (compare n operand) != negated, b)
    | .error e => .error (.notAnInteger s e)

/-- A test fails only by a text that is no integer. -/
theorem eq_notAnInteger_of_test {p : Pattern} {ignoreCase : Bool} {kind : GroupKind} {s : Text}
    {b : Bindings} {e : EvalError} (h : p.test ignoreCase kind s b = .error e) :
    ∃ cause, e = .notAnInteger s cause := by
  cases p with
  | regex negated r =>
    simp only [test] at h
    split at h <;> simp at h
  | lexical negated c operand => simp [test] at h
  | integral negated c operand =>
    simp only [test] at h
    split at h
    · simp at h
    · rename_i cause _
      exact ⟨cause, by simpa using h.symm⟩

end Pattern

end UrlRewrite
