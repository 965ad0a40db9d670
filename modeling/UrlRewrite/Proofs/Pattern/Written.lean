import UrlRewrite.Pattern
import UrlRewrite.Proofs.Text.Decimal

/-!
# Patterns as they are shown

What a pattern is shown as is read as the same pattern again: as one of the same kind, negated or
not as it was, with the same comparison and the same operand or source (`Pattern.written_read`).

Only comparisons with integers are shown in another form than they may have been written in: without
a plus sign and leading zeros, and with one blank in front of the integer
(`Pattern.read_written_integral`). All other patterns are shown as they have been written
(`Pattern.written_of_lexicalParts?`, `Pattern.written_of_readRegex`), so that there is nothing to be
read otherwise.
-/

namespace UrlRewrite

namespace Comparison

theorem eq_append_of_takeSymbol? {s rest : Text} {c : Comparison}
    (h : takeSymbol? s = some (c, rest)) : s = c.symbol ++ rest :=
  eq_append_of_findSome? h

/-- No mnemonic begins another one. -/
theorem takeMnemonic?_append (c : Comparison) (s : Text) :
    takeMnemonic? (c.mnemonic ++ s) = some (c, s) := by
  cases c <;> rfl

theorem head?_mnemonic_append (c : Comparison) (s : Text) : (c.mnemonic ++ s).head? = some '-' := by
  cases c <;> rfl

end Comparison

namespace Pattern

variable {s t : Text} {p : Pattern} {n : Int}

/-- A text with an exclamation mark in front if the pattern is negated. -/
def marked (negated : Bool) (body : Text) : Text := if negated then '!' :: body else body

/-- A mark of negation that is taken off can be put back. -/
theorem marked_takeNegation (s : Text) : marked (takeNegation s).1 (takeNegation s).2 = s := by
  rw [takeNegation.eq_def]
  split <;> rfl

/-- A mark of negation is taken off, unless a second one follows it. -/
theorem takeNegation_marked (negated : Bool) (h : t.head? ≠ some '!') :
    takeNegation (marked negated t) = (negated, t) := by
  cases negated with
  | true => rfl
  | false =>
    rw [marked, if_neg Bool.false_ne_true, takeNegation.eq_def]
    split
    · exact absurd rfl h
    · rfl

/-! ### Comparisons with integers -/

/-- What denotes an integer is an operand. -/
theorem isOperand_of_denotes (h : Text.Denotes s n) : isOperand s = true := by
  have hall : ∀ {digits : Text}, digits ≠ [] → (∀ c ∈ digits, c.isDigit = true) →
      (!digits.isEmpty && digits.all isDigit) = true := by
    intro digits hne hdigits
    simpa [hne] using fun c hc => isDigit_of_isDigit (hdigits c hc)
  cases h with
  | unsigned hne hdigits =>
    rw [isOperand.eq_def]
    -- it begins with a digit, so that no sign is taken off
    split
    · exact absurd rfl (Text.head?_ne_of_isDigit hdigits (c := '+') (by decide))
    · exact absurd rfl (Text.head?_ne_of_isDigit hdigits (c := '-') (by decide))
    · exact hall hne hdigits
  | plus hne hdigits => exact hall hne hdigits
  | minus hne hdigits => exact hall hne hdigits

/-- An integer does not begin with a blank. -/
theorem stops_of_denotes (h : Text.Denotes s n) : Text.Stops isBlank s := by
  cases h with
  | unsigned hne hdigits =>
    exact fun c hc => Text.isBlank_of_isDigit (hdigits c (List.mem_of_mem_head? hc))
  | plus hne hdigits => exact .cons (by decide) _
  | minus hne hdigits => exact .cons (by decide) _

/-- A comparison of integers is taken apart into what it is written with. -/
theorem integralParts?_marked (negated : Bool) (c : Comparison) (h : Text.Denotes s n) :
    integralParts? (marked negated (c.mnemonic ++ ' ' :: s)) = some (negated, c, s) := by
  have hmark : (c.mnemonic ++ ' ' :: s).head? ≠ some '!' := by simp [c.head?_mnemonic_append]
  have hoperand : Text.trimStart (' ' :: s) = s := (stops_of_denotes h).dropWhile
  rw [integralParts?, takeNegation_marked negated hmark]
  simp only [c.takeMnemonic?_append, hoperand, isOperand_of_denotes h, if_true]

/-- A comparison with an integer that can be read is read back from what it is shown as. -/
theorem read_written_integral (negated : Bool) (c : Comparison)
    (hread : Text.readInt Text.maxInt64 s = .ok n) :
    read (integral negated c n).written = .ok (integral negated c n) := by
  obtain ⟨-, hlow, hhigh⟩ := Text.readInt_eq_ok_iff.1 hread
  -- what is shown means the same integer, which is in range since it has been read before
  have hback : Text.readInt Text.maxInt64 (Text.ofInt n) = .ok n :=
    Text.readInt_eq_ok_iff.2 ⟨Text.denotes_ofInt n, hlow, hhigh⟩
  have hwritten :
      (integral negated c n).written = marked negated (c.mnemonic ++ ' ' :: Text.ofInt n) := rfl
  have hne : (marked negated (c.mnemonic ++ ' ' :: Text.ofInt n)).isEmpty = false := by
    cases negated <;> cases c <;> rfl
  rw [hwritten, read, hne]
  simp only [Bool.false_eq_true, if_false,
    integralParts?_marked negated c (Text.denotes_ofInt n), hback]

/-! ### All other patterns -/

theorem lexicalParts?_eq (s : Text) : lexicalParts? s =
    (Comparison.takeSymbol? (takeNegation s).2).map fun r => ((takeNegation s).1, r.1, r.2) := rfl

/-- A comparison of texts is written as it has been read. -/
theorem written_of_lexicalParts? {negated : Bool} {c : Comparison} {operand : Text}
    (h : lexicalParts? s = some (negated, c, operand)) :
    (lexical negated c operand).written = s := by
  rw [lexicalParts?_eq] at h
  obtain ⟨⟨d, rest⟩, htake, heq⟩ := Option.map_eq_some_iff.1 h
  obtain ⟨rfl, rfl, rfl⟩ : (takeNegation s).1 = negated ∧ d = c ∧ rest = operand := by
    simpa using heq
  have hbody := Comparison.eq_append_of_takeSymbol? htake
  calc (lexical (takeNegation s).1 d rest).written
      = marked (takeNegation s).1 (d.symbol ++ rest) := rfl
    _ = s := by rw [← hbody, marked_takeNegation]

/-- A regular expression is written as it has been read. -/
theorem written_of_readRegex (h : readRegex s = .ok p) : p.written = s := by
  simp only [readRegex] at h
  split at h
  · rename_i r hr
    obtain rfl := Except.ok.inj h
    calc (regex (takeNegation s).1 r).written
        = marked (takeNegation s).1 r.source := rfl
      _ = s := by rw [Regex.source_of_read hr, marked_takeNegation]
  · cases h

/-- How a pattern has been read: as a comparison with an integer, or else as what it is shown as. -/
theorem integral_or_written (h : read s = .ok p) :
    (∃ negated c operand n, p = integral negated c n ∧ Text.readInt Text.maxInt64 operand = .ok n) ∨
      p.written = s := by
  rw [read] at h
  -- the forms are tried one after the other, and nothing is tried behind an integer out of range
  split at h
  · cases h
  · split at h
    · rename_i negated c operand _
      split at h
      · rename_i n hread
        exact .inl ⟨negated, c, operand, n, (Except.ok.inj h).symm, hread⟩
      · cases h
    · split at h
      · rename_i hparts
        obtain rfl := Except.ok.inj h
        exact .inr (written_of_lexicalParts? hparts)
      · exact .inr (written_of_readRegex h)

/-- What is read is read again from its written form. -/
theorem read_written (h : read s = .ok p) : read p.written = .ok p := by
  rcases integral_or_written h with ⟨negated, c, operand, n, rfl, hread⟩ | hwritten
  · exact read_written_integral negated c hread
  · rw [hwritten, h]

/-- **A stable form** of a pattern, for a reader of patterns. -/
structure IsStable (reader : Text → Except PatternError Pattern) (p : Pattern) : Prop where
  /-- What the pattern is shown as is read as the same pattern, -/
  reread : reader p.written = .ok p
  /-- which is shown as the same text. -/
  shown : (reader p.written).map written = .ok p.written

theorem IsStable.of_reread {reader : Text → Except PatternError Pattern}
    (h : reader p.written = .ok p) :
    IsStable reader p where
  reread := h
  shown := by rw [h]; rfl

/-- **Patterns that are shown and read again.** What any pattern that can be read is shown as is
stable, whether it is read as the pattern of a condition or as that of a rule. It is the text that
has been read, but for comparisons with integers. -/
theorem written_read (s : Text) (p : Pattern) :
    (read s = .ok p →
      IsStable read p ∧ ((∀ negated c n, p ≠ integral negated c n) → p.written = s)) ∧
      (readRegex s = .ok p → IsStable readRegex p ∧ p.written = s) := by
  refine ⟨fun h => ⟨.of_reread (read_written h), fun hother => ?_⟩, fun h => ?_⟩
  · rcases integral_or_written h with ⟨negated, c, operand, n, rfl, -⟩ | hwritten
    · exact absurd rfl (hother negated c n)
    · exact hwritten
  · have hwritten := written_of_readRegex h
    exact ⟨.of_reread (by rw [hwritten, h]), hwritten⟩

/-- A comparison that is shown in another form, and a regular expression with marks that are not all
negations. -/
theorem written_read_marked :
    read "!-le+007".toList = .ok (integral true .lessOrEqual 7) ∧
      (integral true .lessOrEqual 7).written = "!-le 7".toList ∧
        IsStable read (integral true .lessOrEqual 7) ∧
      ∃ p, read "!!<1".toList = .ok p ∧ readRegex "!!<1".toList = .ok p ∧
        p.written = "!!<1".toList ∧
        IsStable read p ∧ IsStable readRegex p := by
  have hintegral : read "!-le+007".toList = .ok (integral true .lessOrEqual 7) := by rfl
  have hsome : (read "!!<1".toList).toOption.isSome = true := by decide +kernel
  obtain ⟨p, hp⟩ := Option.isSome_iff_exists.1 hsome
  have hread := eq_ok_of_toOption hp
  have hregex : readRegex "!!<1".toList = .ok p := hread
  obtain ⟨hstable, hwritten⟩ := (written_read _ p).2 hregex
  exact ⟨hintegral, by rfl, ((written_read _ _).1 hintegral).1, p, hread, hregex, hwritten,
    ((written_read _ p).1 hread).1, hstable⟩

end Pattern

end UrlRewrite
