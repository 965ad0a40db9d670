import UrlRewrite.Proofs.Text.Pieces
import UrlRewrite.Text.Percent

/-!
# What escaped texts hold

Escaping leaves a character as it is or writes percent signs and digits in its place, whatever the
character is (`Text.mem_percentEscape`). So no character of an escaped text is one that has to be
escaped, and none is new but the percent sign and the digits of base 16 in upper case.

`Text.each_escapeRedirect` says what this means for the target of a redirect: all of it is visible
ASCII (`Text.IsUriChar`). The delimiters of a URI are neither escaped nor added
(`Text.mem_of_mem_escapeRedirect`).

An escaped value holds letters, digits and percent signs only
(`Text.isAlphanum_of_mem_escapeValue`). None of these is escaped in the target of a redirect, so a
value is not escaped a second time there (`Text.escapeRedirect_escapeValue`).
-/

namespace UrlRewrite.Text

/-- A character that stands in a URI as it is: visible ASCII, but for some delimiters of texts in
which URIs are written. -/
def IsUriChar (c : Char) : Prop :=
  32 < c.toNat ∧ c.toNat < 127 ∧ c ∉ ['"', '#', '<', '>', '\x60', '\x7b', '\x7d', '|', '\\', '^']

instance : DecidablePred IsUriChar := fun _ => inferInstanceAs (Decidable (_ ∧ _ ∧ _))

/-- The characters that escapes consist of. -/
def escapeChars : Text := '%' :: "0123456789ABCDEF".toList

theorem upperHexDigit_mem : ∀ n < 16, upperHexDigit n ∈ escapeChars := by
  decide

/-- A byte is escaped by the characters of escapes. -/
theorem mem_escapeByte {b : UInt8} {c : Char} (h : c ∈ escapeByte b) : c ∈ escapeChars := by
  have hb : b.toNat < 256 := b.toNat_lt
  simp only [escapeByte, List.mem_cons, List.not_mem_nil, or_false] at h
  rcases h with rfl | rfl | rfl
  · exact List.mem_cons_self
  · exact upperHexDigit_mem _ (by omega)
  · exact upperHexDigit_mem _ (by omega)

/-- A character of an escaped text belongs to an escape, or has been there and need not be
escaped. -/
theorem mem_percentEscape {mustEscape : Char → Bool} {s : Text} {c : Char}
    (h : c ∈ percentEscape mustEscape s) :
    c ∈ escapeChars ∨ c ∈ s ∧ c.toNat < 128 ∧ mustEscape c = false := by
  obtain ⟨d, hd, hc⟩ := List.mem_flatMap.1 h
  rw [escapeChar] at hc
  split at hc
  · rename_i hkept
    obtain rfl := List.mem_singleton.1 hc
    exact Or.inr ⟨hd, by simpa using hkept⟩
  · obtain ⟨b, -, hb⟩ := List.mem_flatMap.1 hc
    exact Or.inl (mem_escapeByte hb)

/-- Nothing is added to the target of a redirect but escapes. -/
theorem mem_of_mem_escapeRedirect {s : Text} {c : Char} (hc : c ∉ escapeChars)
    (h : c ∈ escapeRedirect s) :
    c ∈ s :=
  (mem_percentEscape h).elim (fun hescape => absurd hescape hc) And.left

/-- An ASCII character that is not escaped in a redirect may stand in a URI. -/
theorem isUriChar_of_not_reserved {c : Char} (hascii : c.toNat < 128)
    (h : isReservedInRedirect c = false) :
    IsUriChar c := by
  simp only [isReservedInRedirect, Bool.or_eq_false_iff, decide_eq_false_iff_not,
    beq_eq_false_iff_ne] at h
  obtain ⟨⟨⟨hlow, hdelete⟩, hlisted⟩, hcodes⟩ := h
  have hspace : c.toNat ≠ 32 := by
    intro hc
    obtain rfl : c = ' ' := Char.toNat_inj.1 hc
    revert hlisted
    decide
  refine ⟨by omega, by omega, fun hmem => ?_⟩
  simp only [List.mem_cons, List.not_mem_nil, or_false] at hmem
  rcases hmem with rfl | rfl | rfl | rfl | rfl | rfl | rfl | rfl | rfl | rfl <;>
    revert hlisted hcodes <;> decide

/-- The target of a redirect holds only characters that stand in a URI as they are. -/
theorem each_escapeRedirect (s : Text) : (escapeRedirect s).Each IsUriChar := by
  intro c hc
  have hescapes : escapeChars.Each IsUriChar := by decide
  rcases mem_percentEscape hc with hescape | ⟨-, hascii, hfree⟩
  · exact hescapes c hescape
  · exact isUriChar_of_not_reserved hascii hfree

/-! ### Escaped values -/

@[simp] theorem percentEscape_append (mustEscape : Char → Bool) (s t : Text) :
    percentEscape mustEscape (s ++ t) = percentEscape mustEscape s ++ percentEscape mustEscape t :=
  List.flatMap_append

/-- A text without a character that has to be escaped is left as it is. -/
theorem percentEscape_eq_self {mustEscape : Char → Bool} {s : Text}
    (h : ∀ c ∈ s, c.toNat < 128 ∧ mustEscape c = false) : percentEscape mustEscape s = s := by
  induction s with
  | nil => rfl
  | cons c s ih =>
    obtain ⟨⟨hascii, hfree⟩, hrest⟩ := List.forall_mem_cons.1 h
    have hc : escapeChar mustEscape c = [c] := by simp [escapeChar, hascii, hfree]
    calc
      percentEscape mustEscape (c :: s)
          = escapeChar mustEscape c ++ percentEscape mustEscape s := rfl
      _ = c :: s := by rw [hc, ih hrest, List.singleton_append]

theorem toNat_lt_of_isAlphanum {c : Char} (h : c.isAlphanum = true) : c.toNat < 128 := by
  have hbelow : ∀ high : Char, c.val ≤ high.val → high.toNat < 128 → c.toNat < 128 := by
    intro high hle hhigh
    exact Nat.lt_of_le_of_lt hle hhigh
  rcases Bool.or_eq_true_iff.1 h with hletter | hdigit
  · rcases Bool.or_eq_true_iff.1 hletter with hupper | hlower
    · exact hbelow 'Z' (of_decide_eq_true hupper).2 (by decide)
    · exact hbelow 'z' (of_decide_eq_true (Bool.and_eq_true_iff.1 hlower).2) (by decide)
  · exact hbelow '9' (of_decide_eq_true (Bool.and_eq_true_iff.1 hdigit).2) (by decide)

/-- Escaped text is of percent signs, letters and digits. -/
theorem isAlphanum_of_mem_escapeValue {s : Text} {c : Char} (h : c ∈ escapeValue s) :
    c = '%' ∨ c.isAlphanum = true := by
  have hescapes : escapeChars.Each fun c => c = '%' ∨ c.isAlphanum = true := by decide
  rcases mem_percentEscape h with hescape | ⟨-, -, hfree⟩
  · exact hescapes c hescape
  · exact Or.inr (by simpa [isReservedInValue] using hfree)

/-- Neither a percent sign nor what an escaped value holds besides is escaped in the target of a
redirect. -/
theorem isReservedInRedirect_of_isAlphanum {c : Char} (h : c = '%' ∨ c.isAlphanum = true) :
    c.toNat < 128 ∧ isReservedInRedirect c = false := by
  rcases h with rfl | h
  · decide
  · have hall :
      ∀ n < 128, (Char.ofNat n).isAlphanum = true →
        isReservedInRedirect (Char.ofNat n) = false := by
      decide
    have hascii := toNat_lt_of_isAlphanum h
    have hc : Char.ofNat c.toNat = c := Char.ofNat_toNat c
    exact ⟨hascii, hc ▸ hall c.toNat hascii (hc.symm ▸ h)⟩

/-- **Values are escaped once.** An escaped value in the target of a redirect is left as it is. -/
theorem escapeRedirect_escapeValue (s : Text) : escapeRedirect (escapeValue s) = escapeValue s :=
  percentEscape_eq_self fun _ hc =>
    isReservedInRedirect_of_isAlphanum (isAlphanum_of_mem_escapeValue hc)

end UrlRewrite.Text
