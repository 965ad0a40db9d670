import UrlRewrite.Text.Basic

/-!
# Decimal integers

Reading integers of a bounded range. A text is read from left to right and the first character that
is no digit, or that leads out of the range, decides the error. Only the digits `0` to `9` count; a
sign may stand in front, a minus sign only where the range holds negative numbers.
-/

namespace UrlRewrite

/-- Why a text is no integer of the range asked for. -/
inductive DecimalError where
  | empty
  | invalidDigit
  | tooLarge
  | tooSmall
deriving DecidableEq, Repr

namespace DecimalError

def message : DecimalError → String
  | empty => "cannot parse integer from empty string"
  | invalidDigit => "invalid digit found in string"
  | tooLarge => "number too large to fit in target type"
  | tooSmall => "number too small to fit in target type"

end DecimalError

namespace Text

/-- The value of a digit from `0` to `9`. -/
def digitValue? (c : Char) : Option Nat :=
  if '0' ≤ c ∧ c ≤ '9' then some (c.toNat - 48) else none

/-- Reads digits behind the value `n`, as long as the value stays at most `bound`. -/
def readDigits (bound n : Nat) (overflow : DecimalError) : Text → Except DecimalError Nat
  | [] => .ok n
  | c :: rest =>
    match digitValue? c with
    | none => .error .invalidDigit
    | some d =>
      if bound < n * 10 + d then .error overflow else readDigits bound (n * 10 + d) overflow rest

/-- Reads a natural number of at most `bound`, with or without a plus sign. -/
def readNat (bound : Nat) : Text → Except DecimalError Nat
  | [] => .error .empty
  | ['+'] => .error .invalidDigit
  | '+' :: rest => readDigits bound 0 .tooLarge rest
  | s => readDigits bound 0 .tooLarge s

/-- Reads an integer from `-(bound + 1)` to `bound`, with or without a sign. -/
def readInt (bound : Nat) : Text → Except DecimalError Int
  | [] => .error .empty
  | ['+'] => .error .invalidDigit
  | ['-'] => .error .invalidDigit
  | '+' :: rest => (readDigits bound 0 .tooLarge rest).map Int.ofNat
  | '-' :: rest => (readDigits (bound + 1) 0 .tooSmall rest).map fun n => -(n : Int)
  | s => (readDigits bound 0 .tooLarge s).map Int.ofNat

/-- The largest integer of 64 bits. -/
def maxInt64 : Nat := 0x7FFFFFFFFFFFFFFF

/-- The largest natural number of 16 bits: the largest port. -/
def maxPort : Nat := 0xFFFF

/-- A natural number in decimal. -/
def ofNat (n : Nat) : Text := Nat.toDigits 10 n

/-- An integer in decimal, with a minus sign if it is negative. -/
def ofInt : Int → Text
  | .ofNat n => ofNat n
  | .negSucc n => '-' :: ofNat (n + 1)

/-- A number in decimal with leading zeros up to a width. -/
def padded (width n : Nat) : Text :=
  let digits := ofNat n
  List.replicate (width - digits.length) '0' ++ digits

end Text

end UrlRewrite
