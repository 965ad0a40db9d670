import UrlRewrite.Text.Blank
import UrlRewrite.Text.CaseFold

/-!
# Keywords

A keyword is recognised at the beginning of a text in whatever case it is written. This module says
when it is and when it is not: it is if it is written in any ASCII case
(`Text.afterKeyword?_append`), and it is not if at some position the text has a different letter
(`Text.afterKeyword?_eq_none`), as the text of another keyword has (`Text.afterKeyword?_other`). It
is recognised without what stands behind it (`Text.afterKeyword?_append_cons`), and is followed by
all of that (`Text.afterKeyword?_eq_some_iff`).
-/

namespace UrlRewrite

/-- A character is ASCII exactly if it is so in lower case. -/
theorem toNat_toLower_lt_iff {c : Char} : c.toLower.toNat < 128 ↔ c.toNat < 128 := by
  unfold Char.toLower
  split
  · rename_i hupper
    have hval : c.val.toNat ≤ 90 := by simpa [UInt32.le_iff_toNat_le] using hupper.2
    have hlower : (c.val + ('a'.val - 'A'.val)).toNat = c.val.toNat + 32 := by
      rw [UInt32.toNat_add]
      exact Nat.mod_eq_of_lt (by have : ('a'.val - 'A'.val).toNat = 32 := rfl; omega)
    simp only [Char.toNat]
    omega
  · rfl

/-- A blank has no case. -/
theorem toLower_of_isBlank {c : Char} (h : isBlank c = true) : c.toLower = c := by
  unfold Char.toLower
  split
  · rename_i hupper
    have hlow : 65 ≤ c.toNat := by simpa [UInt32.le_iff_toNat_le] using hupper.1
    have hhigh : c.toNat ≤ 90 := by simpa [UInt32.le_iff_toNat_le] using hupper.2
    simp only [isBlank, Bool.or_eq_true, Bool.and_eq_true, decide_eq_true_eq, beq_iff_eq] at h
    omega
  · rfl

theorem isBlank_of_toLower {c d : Char} (h : c.toLower = d) (hd : isBlank d = false) :
    isBlank c = false := by
  cases hc : isBlank c with
  | false => rfl
  | true =>
    rw [← toLower_of_isBlank hc, h, hd] at hc
    exact hc.symm

namespace Text

/-- A word of ASCII letters that is written in any case is the keyword. -/
theorem isKeyword_of_sameAsciiCase {word written : Text} (hword : ∀ c ∈ word, c.toNat < 128)
    (h : sameAsciiCase written word = true) : isKeyword word written = true := by
  have hlower : written.map Char.toLower = word.map Char.toLower := by simpa [sameAsciiCase] using h
  have hfold : ∀ c ∈ word, simpleFold c = c.toLower := fun c hc => simpleFold_ascii (hword c hc)
  have hfold' : ∀ c ∈ written, simpleFold c = c.toLower := by
    intro c hc
    -- in lower case it is a character of the word
    have hmem : c.toLower ∈ word.map Char.toLower := hlower ▸ List.mem_map_of_mem hc
    obtain ⟨d, hd, hcd⟩ := List.mem_map.1 hmem
    exact simpleFold_ascii (toNat_toLower_lt_iff.1 (hcd ▸ toNat_toLower_lt_iff.2 (hword d hd)))
  simp [isKeyword, List.map_congr_left hfold, List.map_congr_left hfold', hlower]

theorem length_of_sameAsciiCase {s t : Text} (h : sameAsciiCase s t = true) :
    s.length = t.length := by
  have hlower : s.map Char.toLower = t.map Char.toLower := by simpa [sameAsciiCase] using h
  simpa using congrArg List.length hlower

/-- The first letter of a word, in some case, is the first one of what is written. -/
theorem exists_cons_of_sameAsciiCase {d : Char} {word written : Text}
    (h : sameAsciiCase written (d :: word) = true) :
    ∃ c s, written = c :: s ∧ c.toLower = d.toLower := by
  cases written with
  | nil => simp [sameAsciiCase] at h
  | cons c s =>
    have hlower : c.toLower = d.toLower ∧ s.map Char.toLower = word.map Char.toLower := by
      simpa [sameAsciiCase] using h
    exact ⟨c, s, rfl, hlower.1⟩

theorem length_le_of_isKeyword {word s : Text} (h : isKeyword word (s.take word.length) = true) :
    word.length ≤ s.length := by
  have hlength := congrArg List.length (beq_iff_eq.1 h)
  simp only [List.length_map, List.length_take] at hlength
  omega

/-- A keyword and what stands behind it are the whole text. -/
theorem afterKeyword?_eq_some_iff {word s rest : Text} :
    afterKeyword? word s = some rest ↔
      ∃ written, s = written ++ rest ∧ written.map simpleFold = word.map simpleFold := by
  constructor
  · intro h
    obtain ⟨hkeyword, hrest⟩ := Option.ite_none_right_eq_some.1 h
    obtain rfl := Option.some.inj hrest
    exact ⟨s.take word.length, (List.take_append_drop _ s).symm, beq_iff_eq.1 hkeyword⟩
  · rintro ⟨written, rfl, hfold⟩
    have hlength : written.length = word.length := by simpa using congrArg List.length hfold
    rw [afterKeyword?, ← hlength, List.take_left, List.drop_left, isKeyword, hfold,
      beq_self_eq_true, if_pos rfl]

/-- What follows a keyword that is written in any case. -/
theorem afterKeyword?_append {word written : Text} (hword : ∀ c ∈ word, c.toNat < 128)
    (h : sameAsciiCase written word = true) (s : Text) :
    afterKeyword? word (written ++ s) = some s := by
  rw [afterKeyword?, ← length_of_sameAsciiCase h, List.take_left, List.drop_left,
    if_pos (isKeyword_of_sameAsciiCase hword h)]

/-- A text with a different letter somewhere does not begin with the keyword. -/
theorem afterKeyword?_eq_none {word s : Text} {i : Nat} {c d : Char} (hs : s[i]? = some c)
    (hword : word[i]? = some d) (h : sameLetter c d = false) : afterKeyword? word s = none := by
  rw [afterKeyword?, if_neg]
  intro hkeyword
  have hfold : (s.take word.length).map simpleFold = word.map simpleFold := by
    simpa [isKeyword] using hkeyword
  have hi : i < word.length := (List.getElem?_eq_some_iff.1 hword).1
  have heq := congrArg (·[i]?) hfold
  simp only [List.getElem?_map, List.getElem?_take_of_lt hi, hs, hword, Option.map_some,
    Option.some.injEq] at heq
  simp [sameLetter, heq] at h

/-- A word that is written in any case is not taken for another one. -/
theorem afterKeyword?_other {word other written : Text} (hascii : ∀ c ∈ word, c.toNat < 128)
    (h : sameAsciiCase written word = true) {i : Nat} {c d : Char} (hword : word[i]? = some c)
    (hother : other[i]? = some d) (hletter : sameLetter c d = false) (s : Text) :
    afterKeyword? other (written ++ s) = none := by
  have hfold : written.map simpleFold = word.map simpleFold := by
    simpa [isKeyword] using isKeyword_of_sameAsciiCase hascii h
  have hi := congrArg (·[i]?) hfold
  simp only [List.getElem?_map, hword, Option.map_some, Option.map_eq_some_iff] at hi
  obtain ⟨c', hwritten, hc⟩ := hi
  have hbehind : (written ++ s)[i]? = some c' := by
    rw [List.getElem?_append_left (List.getElem?_eq_some_iff.1 hwritten).1, hwritten]
  exact afterKeyword?_eq_none hbehind hother (by rwa [sameLetter, hc])

/-- A keyword does not go on behind a character that is none of its letters. -/
theorem afterKeyword?_append_cons {word : Text} {c : Char} (hc : ∀ d ∈ word, sameLetter c d = false)
    (s t : Text) :
    afterKeyword? word (s ++ c :: t) = (afterKeyword? word s).map (· ++ c :: t) := by
  by_cases hlength : word.length ≤ s.length
  · simp only [afterKeyword?, List.take_append_of_le_length hlength,
      List.drop_append_of_le_length hlength]
    split <;> rfl
  · have hs : s.length < word.length := Nat.lt_of_not_le hlength
    have hshort : afterKeyword? word s = none :=
      if_neg fun hkeyword => hlength (length_le_of_isKeyword hkeyword)
    -- the character stands where the keyword has a letter
    have hfirst : (s ++ c :: t)[s.length]? = some c := by simp
    have hletter : word[s.length]? = some word[s.length] := List.getElem?_eq_getElem hs
    rw [hshort, afterKeyword?_eq_none hfirst hletter (hc _ (List.getElem_mem hs))]
    rfl

end Text

end UrlRewrite
