import UrlRewrite.Proofs.Template.Reading

/-!
# What errors of templates point at

Reading a template fails because of a reference to a server variable that there is none of, or
because of a table reference without its form. An error quotes what is wrong, and the quotation is
found in the text (`TemplateError.IsWrittenIn`), also if it comes from the key or the default of an
entry.

There is one exception. Behind a dollar sign or a percent sign, a digit of any script is taken for
the index of a group, but only the digits from `0` to `9` are indices. The error that comes of
another one tells of a variable without a name, though none needs to be written
(`Template.not_isWrittenIn`). `Template.error_of_read` says of every text whether this happens: the
error is written unless the reader stumbles over a foreign digit (`Template.Stumbles`). A text
without references in braces is a template if it does not stumble there, so that a dollar sign or a
percent sign alone does no harm.

Everything comes from where the reader is when it fails. `Template.ComesTo` follows it through the
text, with one case for each place that it goes on at. It fails exactly at a token that is at fault
(`Template.readText_eq_error_iff`), and wherever it comes to is a part of the text
(`Template.ComesTo.isInfix`).
-/

namespace UrlRewrite.Template

variable {s t : Text} {e : TemplateError}

/-! ### Where the reader comes to -/

/-- The reader of the first text comes to the second one: everything in front of it can be read. -/
inductive ComesTo : Text → Text → Prop
  | here (s : Text) : ComesTo s s
  | key {c : Char} {s table key rest t : Text} {default : Option Text} :
    Token.first c s = (.entry table key default, rest) → ComesTo key t → ComesTo (c :: s) t
  | default {c : Char} {s table key d rest t : Text} :
    Token.first c s = (.entry table key (some d), rest) → (∃ ps, Piece.readText key = .ok ps) →
      ComesTo d t →
      ComesTo (c :: s) t
  | behind {c : Char} {s rest t : Text} {token : Token} :
    Token.first c s = (token, rest) → (∃ p, token.piece Piece.readText = .ok p) → ComesTo rest t →
      ComesTo (c :: s) t

/-- The reader comes to a foreign digit in place of the index of a group. -/
def Stumbles (s : Text) : Prop := ∃ t, ComesTo s t ∧ BeginsForeign t

/-- What the reader comes to is a part of the text. -/
theorem ComesTo.isInfix (h : ComesTo s t) : t <:+: s := by
  induction h with
  | here s => exact List.infix_rfl
  | @key c s table key rest t default hfirst _ ih =>
    have htaken := Token.takenOff_first c s
    rw [hfirst] at htaken
    exact ih.trans ((htaken.parts key List.mem_cons_self).trans (List.suffix_cons c s).isInfix)
  | @default c s table key d rest t hfirst _ _ ih =>
    have htaken := Token.takenOff_first c s
    rw [hfirst] at htaken
    have hpart : d ∈ (Token.entry table key (some d)).parts :=
      List.mem_cons_of_mem _ List.mem_cons_self
    exact ih.trans ((htaken.parts d hpart).trans (List.suffix_cons c s).isInfix)
  | @behind c s rest t token hfirst _ _ ih =>
    have htaken := Token.takenOff_first c s
    rw [hfirst] at htaken
    exact ih.trans (htaken.rest.trans (List.suffix_cons c s)).isInfix

/-- A failure where the reader comes to is a failure of the whole. -/
theorem ComesTo.readText_eq_error (h : ComesTo s t) (ht : Piece.readText t = .error e) :
    Piece.readText s = .error e := by
  -- an error of the key, of the default or of what is behind is the error of the whole
  induction h with
  | here s => exact ht
  | @key c s table key rest t default hfirst _ ih =>
    have hpiece : (Token.entry table key default).piece Piece.readText = .error e :=
      Token.piece_eq_error_iff.2 (.inr ⟨table, key, default, rfl, .inl (ih ht)⟩)
    rw [Piece.readText_cons, hfirst, hpiece]
    rfl
  | @default c s table key d rest t hfirst hkey _ ih =>
    obtain ⟨ps, hkey⟩ := hkey
    have hpiece : (Token.entry table key (some d)).piece Piece.readText = .error e :=
      Token.piece_eq_error_iff.2 (.inr ⟨table, key, some d, rfl, .inr ⟨d, ps, rfl, hkey, ih ht⟩⟩)
    rw [Piece.readText_cons, hfirst, hpiece]
    rfl
  | behind hfirst hpiece _ ih =>
    obtain ⟨p, hpiece⟩ := hpiece
    rw [Piece.readText_cons, hfirst, hpiece, ih ht]
    rfl

/-- Whenever the text cannot be read, the reader has come to a token that is at fault. -/
theorem exists_comesTo {s : Text} (h : Piece.readText s = .error e) :
    ∃ c t, ComesTo s (c :: t) ∧ (Token.first c t).1.fault? = some e := by
  -- the key, the default and the rest are shorter than the text, so the reader comes to the fault
  -- in one of them
  match s with
  | [] => cases h
  | c :: s =>
    have htaken := Token.takenOff_first c s
    rw [Piece.readText_cons] at h
    rcases hfirst : Token.first c s with ⟨token, rest⟩
    rw [hfirst] at h htaken
    rcases bind_eq_error_iff.1 h with hpiece | ⟨p, hpiece, hrest⟩
    · rcases Token.piece_eq_error_iff.1 hpiece with
        hfault | ⟨table, key, default, rfl, hkey | ⟨d, ps, rfl, hkey, hd⟩⟩
      · exact ⟨c, s, .here _, by rw [hfirst]; exact hfault⟩
      · have hshort := (htaken.parts key List.mem_cons_self).length_le
        obtain ⟨c', t, hcomes, hfault⟩ := exists_comesTo hkey
        exact ⟨c', t, .key hfirst hcomes, hfault⟩
      · have hshort := (htaken.parts d (List.mem_cons_of_mem _ List.mem_cons_self)).length_le
        obtain ⟨c', t, hcomes, hfault⟩ := exists_comesTo hd
        exact ⟨c', t, .default hfirst ⟨ps, hkey⟩ hcomes, hfault⟩
    · have hshort : rest.length ≤ s.length := htaken.rest.length_le
      obtain ⟨c', t, hcomes, hfault⟩ := exists_comesTo (error_of_map hrest)
      exact ⟨c', t, .behind hfirst ⟨p, hpiece⟩ hcomes, hfault⟩
termination_by s.length
decreasing_by all_goals simp only [List.length_cons]; omega

/-- The reader fails exactly where it comes to a token that is at fault. -/
theorem readText_eq_error_iff :
    Piece.readText s = .error e ↔
      ∃ c t, ComesTo s (c :: t) ∧ (Token.first c t).1.fault? = some e := by
  constructor
  · exact exists_comesTo
  · rintro ⟨c, t, hcomes, hfault⟩
    refine hcomes.readText_eq_error ?_
    rw [Piece.readText_cons, Token.piece_of_fault hfault]
    rfl

/-! ### What an error tells -/

/-- A template fails exactly where its pieces do. -/
theorem read_eq_error_iff : read s = .error e ↔ Piece.readText s = .error e := by
  unfold read
  split
  · rename_i pieces hread
    constructor
    · intro h
      cases h
    · intro h
      rw [Piece.readText, hread] at h
      cases h
  · rename_i e' hread
    rw [Piece.readText, hread, Except.error.injEq, Except.error.injEq]

/-- A foreign digit that the reader comes to is an error about an empty name. -/
theorem read_of_stumbles (h : Stumbles s) : read s = .error (.unknownVariable []) := by
  obtain ⟨t, hcomes, hforeign⟩ := h
  rw [read_eq_error_iff, readText_eq_error_iff]
  cases t with
  | nil =>
    obtain ⟨sign, -, d, rest, -, heq⟩ := hforeign
    cases heq
  | cons c t => exact ⟨c, t, hcomes, Token.fault_of_beginsForeign hforeign⟩

/-- An error is about something written in the template, or about a foreign digit. -/
theorem isWrittenIn_or_stumbles (h : read s = .error e) :
    e.IsWrittenIn s ∨ e = .unknownVariable [] ∧ Stumbles s := by
  obtain ⟨c, t, hcomes, hfault⟩ := readText_eq_error_iff.1 (read_eq_error_iff.1 h)
  rcases (Token.takenOff_first c t).fault e hfault with hwritten | ⟨he, hforeign⟩
  · -- what is written in a part of the text is written in the text
    left
    cases e with
    | unknownVariable name => exact List.IsInfix.trans hwritten hcomes.isInfix
    | invalidEntry written => exact List.IsInfix.trans hwritten hcomes.isInfix
  · exact .inr ⟨he, c :: t, hcomes, hforeign⟩

/-- Where the reader stumbles, there is a foreign digit behind a dollar sign or a percent sign. -/
theorem Stumbles.exists_infix (h : Stumbles s) :
    ∃ sign ∈ ['$', '%'], ∃ d, IsForeignDigit d ∧ [sign, d] <:+: s := by
  obtain ⟨t, hcomes, sign, hsign, d, rest, hd, rfl⟩ := h
  have hbegins : [sign, d] <:+: sign :: d :: rest := ⟨[], rest, rfl⟩
  exact ⟨sign, hsign, d, hd, hbegins.trans hcomes.isInfix⟩

/-- A written error has the opening of a reference in front of it. -/
theorem infix_of_isWrittenIn (h : e.IsWrittenIn s) :
    ['$', '\x7b'] <:+: s ∨ ['%', '\x7b'] <:+: s := by
  cases e with
  | unknownVariable name => exact .inr (List.IsInfix.trans ⟨[], name ++ ['\x7d'], rfl⟩ h)
  | invalidEntry written => exact .inl (List.IsInfix.trans ⟨[], written, rfl⟩ h)

/-- **Errors point at what is written**, unless the reader stumbles over a foreign digit: then the
error tells of a variable without a name, so that it points at something only if a reference without
a name is written as well. A text without references in braces is a template exactly if the reader
does not stumble. -/
theorem error_of_read (s : Text) :
    ((∀ e, read s = .error e → e.IsWrittenIn s) ↔
      (Stumbles s → (TemplateError.unknownVariable []).IsWrittenIn s)) ∧
    (Stumbles s → read s = .error (.unknownVariable []) ∧
      ∃ sign ∈ ['$', '%'], ∃ d, IsForeignDigit d ∧ [sign, d] <:+: s) ∧
    (¬ ['$', '\x7b'] <:+: s → ¬ ['%', '\x7b'] <:+: s → ((∃ t, read s = .ok t) ↔ ¬ Stumbles s)) := by
  refine ⟨⟨fun h hstumbles => h _ (read_of_stumbles hstumbles), ?_⟩,
    fun h => ⟨read_of_stumbles h, h.exists_infix⟩, fun hentry hvariable => ⟨?_, ?_⟩⟩
  · -- an error that is not written in the template is about a foreign digit
    intro h e hread
    rcases isWrittenIn_or_stumbles hread with hwritten | ⟨rfl, hstumbles⟩
    · exact hwritten
    · exact h hstumbles
  · rintro ⟨t, hread⟩ hstumbles
    rw [read_of_stumbles hstumbles] at hread
    cases hread
  · intro hstumbles
    cases hread : read s with
    | ok t => exact ⟨t, rfl⟩
    | error e =>
      rcases isWrittenIn_or_stumbles hread with hwritten | ⟨-, h⟩
      · exact ((infix_of_isWrittenIn hwritten).elim hentry hvariable).elim
      · exact absurd h hstumbles

/-! ### A foreign digit -/

section

open CharSet

-- The row is found as a list of characters: taking the string apart again would cost its length
-- squared.
set_option maxRecDepth 4000 in
theorem exists_row_nd : ∃ row, row? Text.categoryTable "nd".toList = some (String.ofList row) ∧
    (union empty (ofDistances (String.ofList row))).contains '٣' = true := by
  refine ⟨?row, ?find, ?mem⟩
  case find => exact rfl
  case mem =>
    rw [ofDistances, String.toList_ofList]
    decide +kernel

/-- The Arabic-Indic three. -/
theorem isForeignDigit_arabicIndic : IsForeignDigit '٣' := by
  obtain ⟨row, hrow, hmem⟩ := exists_row_nd
  have hdigits : digits = union empty (ofDistances (String.ofList row)) := by
    rw [digits, unionOf, List.foldl_cons, List.foldl_nil, tabled?, hrow]
    rfl
  have hdigit : isDigit '٣' = true := by
    rw [isDigit, if_neg (by decide), hdigits, hmem]
  exact ⟨hdigit, by decide⟩

end

/-- A digit of another script is one that the reader stumbles over. -/
theorem stumbles_arabicIndic : Stumbles ['$', '٣'] :=
  ⟨['$', '٣'], .here _, '$', by decide, '٣', [], isForeignDigit_arabicIndic, rfl⟩

/-- Without foreign digits, there is nothing to stumble over. -/
theorem not_stumbles_of_all (h : s.all (fun d => decide (¬ IsForeignDigit d)) = true) :
    ¬ Stumbles s := by
  intro hstumbles
  obtain ⟨sign, -, d, hd, hinfix⟩ := hstumbles.exists_infix
  have hmem : d ∈ s := hinfix.subset (List.mem_cons_of_mem _ List.mem_cons_self)
  exact of_decide_eq_true (List.all_eq_true.1 h d hmem) hd

/-- A variable that there is none of in the default of an entry, a foreign digit, and signs with
nothing to refer to. -/
theorem error_of_read_nested :
    (read "$\x7bm:a|%\x7bNOPE\x7d\x7d".toList = .error (.unknownVariable "NOPE".toList) ∧
      (TemplateError.unknownVariable "NOPE".toList).IsWrittenIn
      "$\x7bm:a|%\x7bNOPE\x7d\x7d".toList) ∧
    (Stumbles ['$', '٣'] ∧ read ['$', '٣'] = .error (.unknownVariable [])) ∧
    ¬ Stumbles ['5', '$', '-', '9', '%'] ∧ ∃ t, read ['5', '$', '-', '9', '%'] = .ok t := by
  have hfirst : Token.first '$' "\x7bm:a|%\x7bNOPE\x7d\x7d".toList =
      (.entry "m".toList "a".toList (some "%\x7bNOPE\x7d".toList), []) := by decide +kernel
  have hcomes : ComesTo "$\x7bm:a|%\x7bNOPE\x7d\x7d".toList "%\x7bNOPE\x7d".toList :=
    .default hfirst ⟨[.literal 'a'], rfl⟩ (.here _)
  have hfault :
      (Token.first '%' "\x7bNOPE\x7d".toList).1.fault? = some (.unknownVariable "NOPE".toList) := by
    decide +kernel
  have hnested :
      read "$\x7bm:a|%\x7bNOPE\x7d\x7d".toList = .error (.unknownVariable "NOPE".toList) :=
    read_eq_error_iff.2 (readText_eq_error_iff.2 ⟨'%', "\x7bNOPE\x7d".toList, hcomes, hfault⟩)
  have hlatin : ¬ Stumbles "$\x7bm:a|%\x7bNOPE\x7d\x7d".toList :=
    not_stumbles_of_all (by decide +kernel)
  have hsigns : ¬ Stumbles ['5', '$', '-', '9', '%'] := not_stumbles_of_all (by decide +kernel)
  refine ⟨⟨hnested, ?_⟩, ⟨stumbles_arabicIndic, ?_⟩, hsigns, ?_⟩
  · exact (error_of_read _).1.2 (fun h => absurd h hlatin) _ hnested
  · exact ((error_of_read _).2.1 stumbles_arabicIndic).1
  · exact ((error_of_read _).2.2 (by decide +kernel) (by decide +kernel)).2 hsigns

/-- No reference is written here at all, but the reader tells of one. -/
theorem not_isWrittenIn : ¬ ∀ s e, read s = .error e → e.IsWrittenIn s := by
  intro h
  have hwritten : ['%', '\x7b', '\x7d'] <:+: ['$', '٣'] :=
    h _ _ (read_of_stumbles stumbles_arabicIndic)
  exact absurd hwritten.length_le (by decide)

end UrlRewrite.Template
