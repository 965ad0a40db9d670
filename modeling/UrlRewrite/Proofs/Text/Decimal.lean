import UrlRewrite.Proofs.Text.Pieces
import UrlRewrite.Result
import UrlRewrite.Text.CharClass

/-!
# Decimal integers, written and read back

A text of digits, perhaps with a sign, denotes an integer (`Text.Denotes`). Reading gives the
integer that a text denotes if it is in range, and nothing else is read (`Text.readInt_eq_ok_iff`).
An integer that is written in decimal is denoted by what is written (`Text.denotes_ofInt`), so that
it is read back.
-/

namespace UrlRewrite

/-- The digits from `0` to `9` are digits. -/
theorem isDigit_of_isDigit {c : Char} (h : c.isDigit = true) : isDigit c = true := by
  have hrange := Text.toNat_of_isDigit h
  rw [isDigit, if_pos (by omega), h]

namespace Text

/-- `Denotes s n`: the text consists of digits, of one at least and perhaps behind a sign, and means
the integer. -/
inductive Denotes : Text → Int → Prop
  | unsigned {digits : Text} (hne : digits ≠ []) (hdigits : ∀ c ∈ digits, c.isDigit = true) :
    Denotes digits (Nat.ofDigitChars 10 digits 0)
  | plus {digits : Text} (hne : digits ≠ []) (hdigits : ∀ c ∈ digits, c.isDigit = true) :
    Denotes ('+' :: digits) (Nat.ofDigitChars 10 digits 0)
  | minus {digits : Text} (hne : digits ≠ []) (hdigits : ∀ c ∈ digits, c.isDigit = true) :
    Denotes ('-' :: digits) (-(Nat.ofDigitChars 10 digits 0 : Nat))

variable {s digits : Text} {bound : Nat} {n : Int}

/-! ### Reading -/

theorem readInt_plus (hne : digits ≠ []) :
    readInt bound ('+' :: digits) = (readDigits bound 0 .tooLarge digits).map Int.ofNat := by
  cases digits with
  | nil => exact absurd rfl hne
  | cons c digits => rfl

theorem readInt_minus (hne : digits ≠ []) :
    readInt bound ('-' :: digits) =
      (readDigits (bound + 1) 0 .tooSmall digits).map fun n : Nat => -(n : Int) := by
  cases digits with
  | nil => exact absurd rfl hne
  | cons c digits =>
    simp only [readInt]
    cases readDigits (bound + 1) 0 .tooSmall (c :: digits) <;> rfl

/-- Without a minus sign, an integer is read as a natural number is. -/
theorem readInt_eq_readNat (h : s.head? ≠ some '-') :
    readInt bound s = (readNat bound s).map Int.ofNat := by
  cases s with
  | nil => rfl
  | cons c s =>
    by_cases hplus : c = '+'
    · subst hplus
      cases s with
      | nil => rfl
      | cons d s => rfl
    · have hminus : c ≠ '-' := by simpa using h
      rw [readInt.eq_def, readNat.eq_def]
      split <;> simp_all

/-- What begins with a digit has no sign. -/
theorem head?_ne_of_isDigit {c : Char} (hdigits : ∀ d ∈ digits, d.isDigit = true)
    (hc : c.isDigit = false) :
    digits.head? ≠ some c := by
  intro hhead
  rw [hdigits c (List.mem_of_mem_head? hhead)] at hc
  cases hc

/-- What is read is what the text denotes, if it is in range. -/
theorem readInt_eq_ok_iff :
    readInt bound s = .ok n ↔ Denotes s n ∧ -(bound + 1 : Int) ≤ n ∧ n ≤ bound := by
  constructor
  · intro h
    -- a minus sign has a range of its own, and without it the text is read as a natural number
    by_cases hminus : s.head? = some '-'
    · obtain ⟨digits, rfl⟩ : ∃ digits, s = '-' :: digits := by
        cases s with
        | nil => cases hminus
        | cons c digits => exact ⟨digits, by simpa using hminus⟩
      have hne : digits ≠ [] := by
        rintro rfl
        cases h
      rw [readInt_minus hne] at h
      obtain ⟨m, hm, rfl⟩ := map_eq_ok_iff.1 h
      obtain ⟨hdigits, rfl, hbound⟩ := of_readDigits (Nat.zero_le _) hm
      exact ⟨.minus hne hdigits, by omega, by omega⟩
    · rw [readInt_eq_readNat hminus] at h
      obtain ⟨m, hm, rfl⟩ := map_eq_ok_iff.1 h
      obtain ⟨digits, rfl | rfl, hne, hdigits, rfl, hbound⟩ := exists_of_readNat hm
      · exact ⟨.unsigned hne hdigits, by simp only [Int.ofNat_eq_natCast]; omega,
          Int.ofNat_le.2 hbound⟩
      · exact ⟨.plus hne hdigits, by simp only [Int.ofNat_eq_natCast]; omega, Int.ofNat_le.2 hbound⟩
  · rintro ⟨hdenotes, hlow, hhigh⟩
    cases hdenotes with
    | unsigned hne hdigits =>
      have hsign := head?_ne_of_isDigit hdigits (c := '-') (by decide)
      rw [readInt_eq_readNat hsign, readNat_of_isDigit hne hdigits (Int.ofNat_le.1 hhigh)]
      rfl
    | plus hne hdigits =>
      rw [readInt_plus hne, readDigits_of_isDigit hdigits (Int.ofNat_le.1 hhigh)]
      rfl
    | minus hne hdigits =>
      rw [readInt_minus hne, readDigits_of_isDigit hdigits (by omega)]
      rfl

/-! ### Writing -/

theorem ofNat_ne_nil (n : Nat) : ofNat n ≠ [] := Nat.toDigits_ne_nil

theorem isDigit_of_mem_ofNat {n : Nat} : ∀ c ∈ ofNat n, c.isDigit = true := fun _ hc =>
  Nat.isDigit_of_mem_toDigits (by decide) (by decide) hc

theorem ofDigitChars_ofNat (n : Nat) : Nat.ofDigitChars 10 (ofNat n) 0 = n :=
  Nat.ofDigitChars_toDigits (by decide) (by decide)

/-- What is written for an integer denotes it. -/
theorem denotes_ofInt (n : Int) : Denotes (ofInt n) n := by
  cases n with
  | ofNat n =>
    have hdenotes := Denotes.unsigned (ofNat_ne_nil n) isDigit_of_mem_ofNat
    rwa [ofDigitChars_ofNat] at hdenotes
  | negSucc n =>
    have hdenotes := Denotes.minus (ofNat_ne_nil (n + 1)) isDigit_of_mem_ofNat
    rwa [ofDigitChars_ofNat] at hdenotes

end Text

end UrlRewrite
