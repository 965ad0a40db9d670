import UrlRewrite.Proofs.Config.Layout

/-!
# Reading lines

A line that holds a directive is read as this directive. Each reader is given the text that its
piece begins, and leaves what follows the piece, provided that this begins in a way that ends the
piece.

* `Line.fieldReadings_append`: the preferred reading of a field is the field as it has been written;
* `Line.comparison?_eq_none`: no field is taken for an integer comparison whose operand stands
  apart, since no digit follows a field;
* `Line.flagsAndEnd?_append`: flags are read up to the end of the line;
* `Line.readAny_written`: of the kinds of lines, only the right one recognises its keyword.

What is left behind a line is the line break or nothing, and in either case what follows up to
blanks.
-/

namespace UrlRewrite

open Layout

/-! ### Keywords and gaps -/

theorem ascii_name (kind : DirectiveKind) : Text.Each (·.toNat < 128) kind.name.toList := by
  cases kind <;> decide

/-- The names of different directives have different letters at some position. -/
theorem exists_mismatch {kind other : DirectiveKind} (h : kind ≠ other) :
    ∃ (i : Nat) (c d : Char), kind.name.toList[i]? = some c ∧ other.name.toList[i]? = some d ∧
      sameLetter c d = false := by
  cases kind <;> cases other <;>
    first
    | exact absurd rfl h
    | exact ⟨0, _, _, rfl, rfl, by decide⟩
    | exact ⟨7, _, _, rfl, rfl, by decide⟩

namespace Line

variable {s t rest : Text}

/-- A spelling of a name is taken off, whatever follows it. -/
theorem afterName?_append {kind : DirectiveKind} {keyword : Text} (h : Spells kind.name keyword)
    (s : Text) :
    Text.afterKeyword? kind.name.toList (keyword ++ s) = some s :=
  Text.afterKeyword?_append (ascii_name kind) h s

/-- A gap is taken off as a whole. -/
theorem gap?_append {gap : Text} (hgap : IsGap gap) (hs : Text.Stops isGap s) :
    gap? (gap ++ s) = some s := by
  obtain ⟨hne, hgap⟩ := hgap
  cases gap with
  | nil => exact absurd rfl hne
  | cons c gap =>
    have hmem : ∀ d ∈ gap, isGap d = true := fun d hd => hgap d (List.mem_cons_of_mem c hd)
    rw [List.cons_append, gap?, if_pos (hgap c List.mem_cons_self), Text.dropWhile_append hmem hs]

/-- A keyword is not taken for another one. -/
theorem afterName?_other {kind other : DirectiveKind} (hother : kind ≠ other) {keyword : Text}
    (h : Spells kind.name keyword) (s : Text) :
    Text.afterKeyword? other.name.toList (keyword ++ s) = none := by
  obtain ⟨i, c, d, hc, hd, hletter⟩ := exists_mismatch hother
  exact Text.afterKeyword?_other (ascii_name kind) h hc hd hletter s

/-- A keyword begins with a letter. -/
theorem exists_cons_of_spells {kind : DirectiveKind} {keyword : Text}
    (h : Spells kind.name keyword) :
    ∃ c u, keyword = c :: u ∧ isBlank c = false ∧ c ≠ '<' ∧ c ≠ '/' ∧ c ≠ '#' := by
  obtain ⟨c, u, rfl, hc⟩ : ∃ c u, keyword = c :: u ∧ c.toLower ∈ ['s', 'r', 'v', 'i'] := by
    cases kind <;>
      · obtain ⟨c, u, rfl, hc⟩ := Text.exists_cons_of_sameAsciiCase h
        exact ⟨c, u, rfl, by rw [hc]; decide⟩
  have hblank : Text.Each (isBlank · = false) ['s', 'r', 'v', 'i'] := by decide
  refine ⟨c, u, rfl, isBlank_of_toLower rfl (hblank _ hc), ?_, ?_, ?_⟩ <;>
    · rintro rfl
      revert hc
      decide

/-! ### Fields -/

/-- The text does not go on without a blank. -/
def Parted (s : Text) : Prop := Text.Stops (!isBlank ·) s

/-- No field begins with a blank. -/
theorem stops_of_field {value field : Text} (h : Field value field) (s : Text) :
    Text.Stops isGap (field ++ s) := by
  cases h with
  | bare h => exact .append_of_ne_nil h.1 (fun c hc => isGap_eq_false (h.2 c hc).1) s
  | quoted h => exact .cons (by decide) _

theorem parted_of_gap {gap : Text} (hgap : IsGap gap) (s : Text) : Parted (gap ++ s) :=
  .append_of_ne_nil hgap.1 (fun c hc => by simp [isBlank_of_isGap (hgap.2 c hc)]) s

/-- A bare value is read up to the part behind it. -/
theorem bare?_append {value : Text} (h : IsBare value) (hs : Parted s) :
    bare? (value ++ s) = some (value, s) :=
  Text.takeRun?_append h.1 (fun c hc => by simp [(h.2 c hc).1]) hs

/-- A value in quotes is read up to the closing quote, whatever follows it. -/
theorem quoted?_append {value : Text} (h : '"' ∉ value) (s : Text) :
    quoted? ('"' :: value ++ ['"'] ++ s) = some ('"' :: value ++ ['"'], s) := by
  have hsplit := Text.splitFirst_append h s
  simp only [List.cons_append, List.append_assoc, List.nil_append, quoted?, hsplit, Option.map_some]

theorem quoted?_eq_none (h : s.head? ≠ some '"') : quoted? s = none := by
  rw [quoted?.eq_def]
  split
  · exact absurd rfl h
  · rfl

/-- A bare value has no quotes, in particular none at its beginning. -/
theorem head?_of_isBare {value : Text} (h : IsBare value) (s : Text) :
    (value ++ s).head? ≠ some '"' := by
  obtain ⟨hne, hvalue⟩ := h
  cases value with
  | nil => exact absurd rfl hne
  | cons c value => simpa using (hvalue c List.mem_cons_self).2

/-- The preferred reading of a field is the field as it has been written. -/
theorem fieldReadings_append {value field : Text} (h : Field value field) (hs : Parted s) :
    ∃ others, fieldReadings (field ++ s) = (field, s) :: others := by
  cases h with
  | bare h =>
    rw [fieldReadings, quoted?_eq_none (head?_of_isBare h s), bare?_append h hs]
    exact ⟨[], rfl⟩
  | quoted h =>
    rw [fieldReadings, quoted?_append h]
    exact ⟨_, rfl⟩

theorem unquote_of_head? (h : s.head? ≠ some '"') : unquote s = s := by
  rw [unquote.eq_def]
  split
  · exact absurd rfl h
  · rfl

/-- Without its quotes, a field is its value. -/
theorem unquote_field {value field : Text} (h : Field value field) : unquote field = value := by
  cases h with
  | bare h => exact unquote_of_head? (by simpa using head?_of_isBare h [])
  | quoted h => simp [unquote]

/-! ### Comparisons -/

/-- What may be an operand does not follow a gap. -/
def NoOperand (s : Text) : Prop :=
  ∀ c ∈ (s.dropWhile isGap).head?, isDigit c = false ∧ c ≠ '+' ∧ c ≠ '-'

/-- A mark of negation is in front of the rest, or there is none. -/
theorem exists_eq_append_takeNegation (s : Text) :
    ∃ mark, (mark = [] ∨ mark = ['!']) ∧ s = mark ++ (Pattern.takeNegation s).2 := by
  rw [Pattern.takeNegation.eq_def]
  split
  · exact ⟨['!'], Or.inr rfl, rfl⟩
  · exact ⟨[], Or.inl rfl, rfl⟩

theorem of_gap? {behind : Text} (h : gap? s = some behind) :
    Parted s ∧ s.dropWhile isGap = behind := by
  obtain ⟨c, t, rfl, hc, hdrop⟩ := exists_of_gap? h
  exact ⟨.cons (by simp [isBlank_of_isGap hc]) t, by rw [List.dropWhile_cons_of_pos hc, hdrop]⟩

/-- A comparison begins with a mnemonic, perhaps behind an exclamation mark, and its operand stands
behind a gap. -/
theorem exists_of_comparison? {r : Text × Text} (h : comparison? s = some r) :
    ∃ mark c behind, (mark = [] ∨ mark = ['!']) ∧ s = mark ++ (c : Comparison).mnemonic ++ behind ∧
      (∃ operand, gap? behind = some operand) ∧ ¬ NoOperand behind := by
  simp only [comparison?, Option.bind_eq_bind, Option.bind_eq_some_iff] at h
  obtain ⟨⟨c, behind⟩, hmnemonic, operand, hgap, h⟩ := h
  obtain ⟨mark, hmark, htext⟩ := exists_eq_append_takeNegation s
  refine ⟨mark, c, behind, hmark, ?_, ⟨operand, hgap⟩, ?_⟩
  · rw [List.append_assoc, ← Comparison.eq_append_of_takeMnemonic? hmnemonic]
    exact htext
  · intro hnone
    rw [NoOperand, (of_gap? hgap).2] at hnone
    cases operand with
    | nil => simp at h
    | cons d operand =>
      obtain ⟨hdigit, hplus, hminus⟩ := hnone d rfl
      simp [hplus, hminus, hdigit] at h

theorem isBlank_mnemonic (c : Comparison) : Text.Each (isBlank · = false) c.mnemonic := by
  cases c <;> decide

/-- No field is taken for a comparison whose operand stands apart. -/
theorem comparison?_eq_none {value field : Text} (h : Field value field) (hs : Parted s)
    (hoperand : NoOperand s) : comparison? (field ++ s) = none := by
  rw [Option.eq_none_iff_forall_ne_some]
  intro r hr
  obtain ⟨mark, c, behind, hmark, htext, ⟨operand, hgap⟩, hfound⟩ := exists_of_comparison? hr
  cases h with
  | bare h =>
    have hbegin : ∀ d ∈ mark ++ c.mnemonic, (!isBlank d) = true := by
      intro d hd
      rcases List.mem_append.1 hd with hd | hd
      · rcases hmark with rfl | rfl
        · simp at hd
        · rw [List.mem_singleton.1 hd]
          rfl
      · simp [isBlank_mnemonic c d hd]
    have hfield : ∀ d ∈ value, (!isBlank d) = true := fun d hd => by simp [(h.2 d hd).1]
    -- what follows the first run without blanks
    have hrest : s = behind := by
      rw [← Text.dropWhile_append hfield hs, htext, Text.dropWhile_append hbegin (of_gap? hgap).1]
    exact hfound (hrest ▸ hoperand)
  | quoted h =>
    have hhead := congrArg List.head? htext
    rcases hmark with rfl | rfl <;> cases c <;> simp [Comparison.mnemonic] at hhead

/-! ### Flags and the end of a line -/

/-- `Ends s rest`: at most spaces and tabs are left of a line at `s`, and `rest` is what follows
it. -/
inductive Ends : Text → Text → Prop
  | mk {pad t rest : Text} (hpad : IsPad pad) (hbreak : Text.Break t rest) : Ends (pad ++ t) rest

/-- What a line break takes off a text is blank. -/
theorem isBlank_of_break (h : Text.Break t rest) :
    ∃ line : Text, t = line ++ rest ∧ line.Each (isBlank · = true) := by
  cases h with
  | feed => exact ⟨['\n'], rfl, by decide⟩
  | returnFeed => exact ⟨['\r', '\n'], rfl, by decide⟩
  | finish => exact ⟨[], rfl, by decide⟩

/-- A line break is no part of a line. -/
theorem head?_of_break (h : Text.Break t rest) :
    t.head? = none ∨ t.head? = some '\n' ∨ t.head? = some '\r' := by
  cases h <;> simp

/-- A line break stops a set that has neither of its characters. -/
theorem stops_of_break {p : Char → Bool} (hfeed : p '\n' = false) (hreturn : p '\r' = false)
    (h : Text.Break t rest) : Text.Stops p t := by
  cases h with
  | feed rest => exact .cons hfeed rest
  | returnFeed rest => exact .cons hreturn _
  | finish => exact .nil

namespace Ends

theorem parted (h : Ends s rest) : Parted s := by
  obtain ⟨hpad, hbreak⟩ := h
  have hstop := stops_of_break (p := (!isBlank ·)) (by decide) (by decide) hbreak
  exact .append (fun c hc => by simp [isBlank_of_isGap (hpad c hc)]) hstop

/-- Without the blanks in front of it, the end of a directive is a line break. -/
theorem dropWhile_isGap (h : Ends s rest) : Text.Break (s.dropWhile isGap) rest := by
  obtain ⟨hpad, hbreak⟩ := h
  rwa [Text.dropWhile_append hpad (stops_of_break (by decide) (by decide) hbreak)]

/-- Nothing behind the end of a directive is an operand of a comparison. -/
theorem noOperand (h : Ends s rest) : NoOperand s := by
  intro c hc
  rcases head?_of_break h.dropWhile_isGap with hnone | hfeed | hreturn
  · simp [hnone] at hc
  · obtain rfl : '\n' = c := by simpa [hfeed] using hc
    decide
  · obtain rfl : '\r' = c := by simpa [hreturn] using hc
    decide

end Ends

/-- At the end of a directive the line is over, and what follows it is the next line. -/
theorem lineEnd?_of_ends (h : Ends s rest) :
    ∃ behind, lineEnd? s = some behind ∧ Text.trimStart behind = Text.trimStart rest := by
  obtain ⟨hpad, hbreak⟩ := h
  rename_i pad t
  have hpad' : ∀ c ∈ pad, (isGap c || c == '\r') = true := fun c hc => by simp [hpad c hc]
  rw [lineEnd?, List.dropWhile_append_of_pos hpad']
  cases hbreak with
  | feed => exact ⟨'\n' :: rest, rfl, List.dropWhile_cons_of_pos rfl⟩
  | returnFeed => exact ⟨'\n' :: rest, rfl, List.dropWhile_cons_of_pos rfl⟩
  | finish => exact ⟨[], rfl, rfl⟩

theorem flags?_eq_none (h : Ends s rest) : flags? s = none := by
  rw [flags?, Option.bind_eq_none_iff]
  intro behind hgap
  rw [← (of_gap? hgap).2]
  refine Text.bracketed?_eq_none ?_
  rcases head?_of_break h.dropWhile_isGap with hnone | hfeed | hreturn
  · simp [hnone]
  · simp [hfeed]
  · simp [hreturn]

/-- Flags in brackets are read behind a gap, whatever follows them. -/
theorem flags?_append {flags gap : Text} (hgap : IsGap gap)
    (hflags : ∀ c ∈ flags, isFlagChar c = true) (s : Text) :
    flags? (gap ++ ('[' :: (flags ++ ']' :: s))) = some (flags, s) := by
  rw [flags?, gap?_append hgap (.cons (by decide) _), Option.bind_some, ← List.cons_append,
    Text.bracketed?_append hflags (by decide)]

/-- Flags are read up to the end of the line. -/
theorem flagsAndEnd?_append {flags brackets : Text} (hflags : Flags flags brackets)
    (h : Ends s rest) :
    ∃ behind, flagsAndEnd? (brackets ++ s) = some (flags, behind) ∧
      Text.trimStart behind = Text.trimStart rest := by
  obtain ⟨behind, hend, htrim⟩ := lineEnd?_of_ends h
  refine ⟨behind, ?_, htrim⟩
  cases hflags with
  | absent => simp [flagsAndEnd?, flags?_eq_none h, hend]
  | present hgap hchars =>
    have hread := flags?_append hgap (fun c hc => (hchars c hc).1) s
    simp [flagsAndEnd?, hread, hend]

theorem parted_of_flags {flags brackets : Text} (hflags : Flags flags brackets) (h : Ends s rest) :
    Parted (brackets ++ s) := by
  cases hflags with
  | absent => exact h.parted
  | present hgap _ =>
    rw [List.append_assoc]
    exact parted_of_gap hgap _

theorem noOperand_of_flags {flags brackets : Text} (hflags : Flags flags brackets)
    (h : Ends s rest) :
    NoOperand (brackets ++ s) := by
  cases hflags with
  | absent => exact h.noOperand
  | present hgap _ =>
    intro c hc
    have hbracket : Text.Stops isGap ('[' :: flags ++ [']'] ++ s) := .cons (by decide) _
    rw [List.append_assoc, Text.dropWhile_append hgap.2 hbracket] at hc
    obtain rfl : '[' = c := by simpa using hc
    decide

theorem unquote_flags {flags brackets : Text} (hflags : Flags flags brackets) :
    unquote flags = flags := by
  cases hflags with
  | absent => rfl
  | present _ hchars =>
    refine unquote_of_head? fun hquote => ?_
    exact (hchars '"' (List.mem_of_mem_head? hquote)).2 rfl

/-! ### Lines -/

/-- A line with two fields. -/
theorem twoFields?_append {kind : DirectiveKind} {first second flags : Text}
    {readings : Text → List (Text × Text)} (h : TwoFields kind first second flags s)
    (ht : Ends t rest)
    (hreadings : ∀ {value field u : Text}, Field value field → Parted u → NoOperand u →
      ∃ others, readings (field ++ u) = (field, u) :: others) :
    ∃ behind, twoFields? kind.name readings (s ++ t) = some ⟨first, second, flags, behind⟩ ∧
      Text.trimStart behind = Text.trimStart rest := by
  obtain @⟨keyword, gap₁, field₁, gap₂, field₂, brackets, hkeyword, hgap₁, hfirst, hgap₂,
    hsecond, hflags⟩ := h
  obtain ⟨behind, hend, htrim⟩ := flagsAndEnd?_append hflags ht
  -- the first reading of each field is the one that is written, and no other one is tried
  obtain ⟨others₂, hread₂⟩ :=
    hreadings hsecond (parted_of_flags hflags ht) (noOperand_of_flags hflags ht)
  obtain ⟨others₁, hread₁⟩ :=
    fieldReadings_append hfirst (parted_of_gap hgap₂ (field₂ ++ (brackets ++ t)))
  refine ⟨behind, ?_, htrim⟩
  simp only [twoFields?, List.append_assoc, Option.bind_eq_bind, Option.bind_some,
    List.findSome?_cons, afterName?_append hkeyword, gap?_append hgap₁ (stops_of_field hfirst _),
    hread₁, gap?_append hgap₂ (stops_of_field hsecond _), hread₂, hend, unquote_field hfirst,
    unquote_field hsecond, unquote_flags hflags]

/-- The first reading of a pattern is the field that it is written as, since it is no comparison
over two fields. -/
theorem patternReadings_append {value field : Text} (h : Field value field) (hs : Parted s)
    (hoperand : NoOperand s) : ∃ others, patternReadings (field ++ s) = (field, s) :: others := by
  rw [patternReadings, comparison?_eq_none h hs hoperand]
  exact fieldReadings_append h hs

/-- A line of one field is read from its layout. -/
theorem oneField?_append {kind : DirectiveKind} {keyword gap value : Text}
    (hkeyword : Spells kind.name keyword) (hgap : IsGap gap) (hvalue : IsBare value)
    (ht : Ends t rest) :
    ∃ behind, oneField? kind.name (keyword ++ (gap ++ value) ++ t) = some (value, behind) ∧
      Text.trimStart behind = Text.trimStart rest := by
  obtain ⟨behind, hend, htrim⟩ := lineEnd?_of_ends ht
  have hfield : Field value value := .bare hvalue
  refine ⟨behind, ?_, htrim⟩
  simp only [oneField?, List.append_assoc, Option.bind_eq_bind, Option.bind_some,
    afterName?_append hkeyword, gap?_append hgap (stops_of_field hfield _),
    bare?_append hvalue ht.parted, unquote_field hfield, hend]

theorem stops_of_switchWord {on : Bool} {word : Text} (h : Spells (switchWord on) word) (s : Text) :
    Text.Stops isGap (word ++ s) := by
  obtain ⟨c, word, rfl, hc⟩ : ∃ c u, word = c :: u ∧ c.toLower = 'o' := by
    cases on <;> exact Text.exists_cons_of_sameAsciiCase h
  exact .cons (isGap_eq_false (isBlank_of_toLower hc (by decide))) _

/-- A line with a switch is read from its layout. -/
theorem switch?_append {kind : DirectiveKind} {keyword gap word : Text} {on : Bool}
    (hkeyword : Spells kind.name keyword) (hgap : IsGap gap) (hword : Spells (switchWord on) word)
    (ht : Ends t rest) :
    ∃ behind, switch? kind.name (keyword ++ (gap ++ word) ++ t) = some (on, behind) ∧
      Text.trimStart behind = Text.trimStart rest := by
  obtain ⟨behind, hend, htrim⟩ := lineEnd?_of_ends ht
  refine ⟨behind, ?_, htrim⟩
  have hascii : Text.Each (·.toNat < 128) (switchWord on).toList := by cases on <;> decide
  have hsame := Text.afterKeyword?_append hascii hword t
  simp only [switch?, List.append_assoc, Option.bind_eq_bind, Option.bind_some,
    afterName?_append hkeyword, gap?_append hgap (stops_of_switchWord hword _), List.findSome?_cons]
  cases on with
  | true =>
    simp only [switchWord, if_true] at hsame
    simp only [hsame, hend, Option.bind_some]
  | false =>
    have hother : Text.afterKeyword? "on".toList (word ++ t) = none :=
      Text.afterKeyword?_other hascii hword (i := 1) rfl rfl (by decide) t
    simp only [switchWord, Bool.false_eq_true, if_false] at hsame
    simp only [hsame, hother, hend, Option.bind_some, Option.bind_none]

/-- A line is read by the reader for its kind. -/
theorem read_append {d : Directive} (h : Written d s) (ht : Ends t rest) :
    ∃ behind, read d.kind (s ++ t) = .ok (some (d, behind)) ∧
      Text.trimStart behind = Text.trimStart rest := by
  -- names and switches are read at once, and fields by the first of their readings
  cases h with
  | serverName hkeyword hgap hname =>
    obtain ⟨behind, hread, htrim⟩ := oneField?_append hkeyword hgap hname ht
    exact ⟨behind, read_eq_some_iff.2 (.serverName hread), htrim⟩
  | rewriteEngine hkeyword hgap hword =>
    obtain ⟨behind, hread, htrim⟩ := switch?_append hkeyword hgap hword ht
    exact ⟨behind, read_eq_some_iff.2 (.rewriteEngine hread), htrim⟩
  | condition hfields hbuild =>
    obtain ⟨behind, hread, htrim⟩ := twoFields?_append hfields ht patternReadings_append
    exact ⟨behind, read_eq_some_iff.2 (.condition hread hbuild), htrim⟩
  | rule hfields hbuild =>
    obtain ⟨behind, hread, htrim⟩ :=
      twoFields?_append hfields ht fun h hs _ => fieldReadings_append h hs
    exact ⟨behind, read_eq_some_iff.2 (.rule hread hbuild), htrim⟩

/-- What is written on a line begins with a keyword. -/
theorem exists_keyword {d : Directive} (h : Written d s) :
    ∃ keyword u, s = keyword ++ u ∧ Spells d.kind.name keyword := by
  cases h with
  | serverName hkeyword _ _ => exact ⟨_, _, rfl, hkeyword⟩
  | rewriteEngine hkeyword _ _ => exact ⟨_, _, rfl, hkeyword⟩
  | condition hfields _ =>
    obtain ⟨hkeyword, -⟩ := hfields
    exact ⟨_, _, rfl, hkeyword⟩
  | rule hfields _ =>
    obtain ⟨hkeyword, -⟩ := hfields
    exact ⟨_, _, rfl, hkeyword⟩

/-- A line of another kind is not read. -/
theorem read_other {kind other : DirectiveKind} (hother : kind ≠ other) {keyword : Text}
    (h : Spells kind.name keyword) (s : Text) : read other (keyword ++ s) = .ok none := by
  have hnone := afterName?_other hother h s
  cases other with
  | serverName => simp [read, oneField?, hnone]
  | rewriteEngine => simp [read, switch?, hnone]
  | rewriteCond => simp [read, twoFields?, hnone]
  | rewriteRule => simp [read, twoFields?, hnone]
  | virtualHost => rfl
  | ifModule => rfl

/-- A line that one kind reads and no other kind does is read by trying the kinds in turn. -/
theorem readAny_of_read {kind : DirectiveKind} {kinds : List DirectiveKind} (hkind : kind ∈ kinds)
    {r : Directive × Text} (hread : read kind s = .ok (some r))
    (hothers : ∀ other ≠ kind, read other s = .ok none) : readAny s kinds = .ok (some r) := by
  induction kinds with
  | nil => simp at hkind
  | cons other kinds ih =>
    by_cases h : other = kind
    · rw [readAny, h, hread]
    · rw [readAny, hothers other h]
      exact ih ((List.mem_cons.1 hkind).resolve_left (Ne.symm h))

theorem kind_mem_kinds {d : Directive} (h : Written d s) : d.kind ∈ kinds := by
  cases h <;> simp [Directive.kind, kinds]

/-- A line is read as the directive that it holds. -/
theorem readAny_written {d : Directive} (h : Written d s) (ht : Ends t rest) :
    ∃ behind, readAny (s ++ t) kinds = .ok (some (d, behind)) ∧
      Text.trimStart behind = Text.trimStart rest := by
  obtain ⟨behind, hread, htrim⟩ := read_append h ht
  obtain ⟨keyword, u, rfl, hkeyword⟩ := exists_keyword h
  refine ⟨behind, readAny_of_read (kind_mem_kinds h) hread fun other hother => ?_, htrim⟩
  rw [List.append_assoc]
  exact read_other (Ne.symm hother) hkeyword (u ++ t)

end Line

end UrlRewrite
