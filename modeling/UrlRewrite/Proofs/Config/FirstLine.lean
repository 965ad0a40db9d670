import UrlRewrite.Proofs.Config.Descent
import UrlRewrite.Proofs.Config.Readings

/-!
# Directives on the first line

A directive that stands on a line is taken off the beginning of a text that goes on with other
lines. What is read ends where a line ends (`Line.isBehindLine_of_read`), and mostly this is the
first line: then the directive is that of this line alone, and the other lines are left
(`Directive.takesFirstLine`).

A quoted field of a condition or of a rule may however go on in the next lines (`Line.GoesBeyond`).
Then the closing quote stands in one of these (`Line.exists_quote_of_fields?`), so that less is left
(`Directive.ne_of_goesBeyond`).
-/

namespace UrlRewrite

namespace Line

open Text

variable {l s t : Text} {second : Text → List (Text × Text)} {f : Fields}

/-! ### Readers of lines -/

section Directives

variable (ht : IsBehindLine t) {kind : DirectiveKind}

include ht

/-- If no field goes beyond its line, the fields are those of the line alone. -/
theorem twoFields?_append_behind (hsecond : ReadsField second) (hl : '\n' ∉ l)
    (h : twoFields? kind.name second (l ++ t) = some f) (hon : f.OnLine) :
    ∃ g, twoFields? kind.name second l = some g ∧ f = g.inFrontOf t := by
  rw [twoFields?_eq_head?, behindName_append_behind ht, Option.bind_map] at h
  obtain ⟨s, hname, hhead : (twoReadings second (s ++ t)).head? = some f⟩ :=
    Option.bind_eq_some_iff.1 h
  have hs : '\n' ∉ s := by
    obtain ⟨s', hkeyword, hgap⟩ := Option.bind_eq_some_iff.1 hname
    have hsuffix := (isRest_of_gap? hgap).suffix.trans (suffix_of_afterKeyword? hkeyword)
    exact fun hmem => hl (hsuffix.subset hmem)
  obtain ⟨fs, hreadings⟩ := List.head?_eq_some_iff.1 hhead
  -- the preferred reading is among those that are kept
  have hkept := filter_twoReadings hsecond hs ht
  rw [hreadings, List.filter_cons_of_pos (by simpa using hon)] at hkept
  obtain ⟨g, gs, hg, rfl, -⟩ := List.map_eq_cons_iff.1 hkept.symm
  refine ⟨g, ?_, rfl⟩
  rw [twoFields?_eq_head?, hname, Option.bind_some, hg, List.head?_cons]

/-- A line of one field is read without the lines behind it. -/
theorem oneField?_append_behind (s : Text) :
    oneField? kind.name (s ++ t) = (oneField? kind.name s).map (Prod.map id (· ++ t)) := by
  simp only [oneField?, Option.bind_eq_bind, afterKeyword?_append_behind ht (sameLetter_feed kind),
    gap?_append_behind ht, bare?_append_behind ht, lineEnd?_append_behind ht, Option.bind_map,
    Option.map_bind, Function.comp_def, Prod.map_fst, Prod.map_snd, Option.map_some,
    Prod.map_apply, id]

theorem switch?_append_behind (s : Text) :
    switch? kind.name (s ++ t) = (switch? kind.name s).map (Prod.map id (· ++ t)) := by
  -- either word is read within the line, and so is the end of the line behind it
  have hswitch (s : Text) (word : String) (on : Bool)
    (hword : Text.Each (sameLetter '\n' · = false) word.toList) :
      ((afterKeyword? word.toList (s ++ t)).bind fun s => (lineEnd? s).bind fun s => some (on, s)) =
        ((afterKeyword? word.toList s).bind fun s => (lineEnd? s).bind fun s => some (on, s)).map
          (Prod.map id (· ++ t)) := by
    simp only [afterKeyword?_append_behind ht hword, lineEnd?_append_behind ht, Option.bind_map,
      Option.map_bind, Function.comp_def, Option.map_some, Prod.map_apply, id]
  simp only [switch?, Option.bind_eq_bind, afterKeyword?_append_behind ht (sameLetter_feed kind),
    gap?_append_behind ht, Option.bind_map, Option.map_bind, Function.comp_def]
  congr 1
  funext s
  congr 1
  funext s
  simp only [List.findSome?_cons, List.findSome?_nil, hswitch s "on" true (by decide),
    hswitch s "off" false (by decide)]
  cases (afterKeyword? "on".toList s).bind fun s => (lineEnd? s).bind fun s => some (true, s) with
  | some r => rfl
  | none =>
    cases (afterKeyword? "off".toList s).bind fun s => (lineEnd? s).bind fun s =>
      some (false, s) <;> rfl

end Directives

/-! ### Fields of conditions and rules -/

/-- The fields of a directive with two fields and flags. -/
def fields? (kind : DirectiveKind) (s : Text) : Option Fields :=
  match kind with
  | .rewriteCond => twoFields? kind.name patternReadings s
  | .rewriteRule => twoFields? kind.name fieldReadings s
  | _ => none

/-- A field of the directive at the beginning of the text goes beyond its line. -/
def GoesBeyond (kind : DirectiveKind) (s : Text) : Prop := ∃ f, fields? kind s = some f ∧ ¬ f.OnLine

variable {kind : DirectiveKind} {d : Directive} {rest : Text}

/-- The fields of a directive are read up to the end of a line. -/
theorem isBehindLine_of_fields? (h : fields? kind s = some f) : IsBehindLine f.rest := by
  have hread {keyword : String} {second : Text → List (Text × Text)}
    (h : twoFields? keyword second s = some f) :
      IsBehindLine f.rest := by
    rw [twoFields?_eq_head?] at h
    obtain ⟨s', -, hhead⟩ := Option.bind_eq_some_iff.1 h
    exact isBehindLine_of_twoReadings (List.mem_of_mem_head? hhead)
  cases kind with
  | rewriteCond => exact hread h
  | rewriteRule => exact hread h
  | _ => simp [fields?] at h

/-- If no field goes beyond its line, the fields are those of the line alone. -/
theorem fields?_append_behind (hl : '\n' ∉ l) (ht : IsBehindLine t)
    (h : fields? kind (l ++ t) = some f) (hon : f.OnLine) :
    ∃ g, fields? kind l = some g ∧ f = g.inFrontOf t := by
  cases kind with
  | rewriteCond => exact twoFields?_append_behind ht readsField_patternReadings hl h hon
  | rewriteRule => exact twoFields?_append_behind ht readsField_fieldReadings hl h hon
  | _ => simp [fields?] at h

/-- If a field goes beyond its line, there is a quote in a later line in front of what follows the
fields. -/
theorem exists_quote_of_fields? (h : fields? kind s = some f) (hfeed : ¬ f.OnLine) :
    ∃ front behind, s = front ++ '"' :: behind ∧ '\n' ∈ front ∧ f.rest <:+ behind := by
  have hread {second : Text → List (Text × Text)} (hsecond : ReadsField second)
      (h : twoFields? kind.name second s = some f) :
      ∃ front behind, s = front ++ '"' :: behind ∧ '\n' ∈ front ∧ f.rest <:+ behind := by
    rw [twoFields?_eq_head?] at h
    obtain ⟨s', hname, hhead⟩ := Option.bind_eq_some_iff.1 h
    obtain ⟨s'', hkeyword, hgap⟩ := Option.bind_eq_some_iff.1 hname
    obtain ⟨begin, rfl⟩ := (isRest_of_gap? hgap).suffix.trans (suffix_of_afterKeyword? hkeyword)
    obtain ⟨front, behind, rfl, hfront, hrest⟩ :=
      exists_quote_of_twoReadings hsecond (List.mem_of_mem_head? hhead) hfeed
    exact ⟨begin ++ front, behind, by simp, by simp [hfront], hrest⟩
  cases kind with
  | rewriteCond => exact hread readsField_patternReadings h
  | rewriteRule => exact hread readsField_fieldReadings h
  | _ => simp [fields?] at h

/-- Only conditions and rules go beyond a line. -/
theorem GoesBeyond.cond_or_rule (h : GoesBeyond kind s) :
    kind = .rewriteCond ∨ kind = .rewriteRule := by
  obtain ⟨f, hf, -⟩ := h
  cases kind <;> simp [fields?] at hf ⊢

/-- A directive that goes beyond its line has a quote behind it. -/
theorem GoesBeyond.mem_behindFirstLine (h : GoesBeyond kind s) : '"' ∈ behindFirstLine s := by
  obtain ⟨f, hf, hfeed⟩ := h
  obtain ⟨front, r, rfl, hfront, -⟩ := exists_quote_of_fields? hf hfeed
  obtain ⟨behind, hbehind⟩ := exists_behindFirstLine hfront ('"' :: r)
  rw [hbehind]
  exact List.mem_append_right _ List.mem_cons_self

/-- What is left behind a directive with fields is what its fields leave. -/
theorem rest_eq_of_read (hf : fields? kind s = some f) (h : read kind s = .ok (some (d, rest))) :
    rest = f.rest := by
  cases read_eq_some_iff.1 h with
  | serverName => cases hf
  | rewriteEngine => cases hf
  | condition hfields _ => exact congrArg Fields.rest (Option.some.inj (hfields.symm.trans hf))
  | rule hfields _ => exact congrArg Fields.rest (Option.some.inj (hfields.symm.trans hf))

/-! ### Directives on lines -/

/-- A directive ends where a line ends. -/
theorem isBehindLine_of_read (h : read kind s = .ok (some (d, rest))) : IsBehindLine rest := by
  -- the end of the line is looked for last
  cases read_eq_some_iff.1 h with
  | serverName hfield =>
    simp only [oneField?, Option.bind_eq_bind, Option.bind_eq_some_iff] at hfield
    obtain ⟨_, -, _, -, _, -, behind, hend, heq⟩ := hfield
    obtain ⟨-, rfl⟩ := Prod.mk.inj (Option.some.inj heq)
    exact isBehindLine_of_lineEnd? hend
  | rewriteEngine hswitch =>
    simp only [switch?, Option.bind_eq_bind, Option.bind_eq_some_iff] at hswitch
    obtain ⟨_, -, _, -, hfound⟩ := hswitch
    obtain ⟨_, -, hfound⟩ := List.exists_of_findSome?_eq_some hfound
    simp only [Option.bind_eq_some_iff] at hfound
    obtain ⟨_, -, behind, hend, heq⟩ := hfound
    obtain ⟨-, rfl⟩ := Prod.mk.inj (Option.some.inj heq)
    exact isBehindLine_of_lineEnd? hend
  | condition hread _ =>
    have hfields : fields? .rewriteCond s = some _ := hread
    exact isBehindLine_of_fields? hfields
  | rule hread _ =>
    have hfields : fields? .rewriteRule s = some _ := hread
    exact isBehindLine_of_fields? hfields

/-- If no field goes beyond its line, the directive is that of the line alone. -/
theorem read_of_append_behind (hl : '\n' ∉ l) (ht : IsBehindLine t)
    (h : read kind (l ++ t) = .ok (some (d, rest))) (hon : ¬ GoesBeyond kind (l ++ t)) :
    ∃ rest', read kind l = .ok (some (d, rest')) ∧ rest = rest' ++ t := by
  -- only the two kinds with fields can go beyond their line
  have hfields (f : Fields) (hf : fields? kind (l ++ t) = some f) :
      ∃ g, fields? kind l = some g ∧ f = g.inFrontOf t := by
    by_cases honline : f.OnLine
    · exact fields?_append_behind hl ht hf honline
    · exact absurd ⟨f, hf, honline⟩ hon
  cases read_eq_some_iff.1 h with
  | serverName hfield =>
    rw [oneField?_append_behind ht] at hfield
    obtain ⟨r, hline, heq⟩ := Option.map_eq_some_iff.1 hfield
    obtain ⟨rfl, rfl⟩ := Prod.mk.inj heq
    exact ⟨r.2, read_eq_some_iff.2 (.serverName hline), rfl⟩
  | rewriteEngine hswitch =>
    rw [switch?_append_behind ht] at hswitch
    obtain ⟨r, hline, heq⟩ := Option.map_eq_some_iff.1 hswitch
    obtain ⟨rfl, rfl⟩ := Prod.mk.inj heq
    exact ⟨r.2, read_eq_some_iff.2 (.rewriteEngine hline), rfl⟩
  | condition hread hbuild =>
    obtain ⟨g, hline, rfl⟩ := hfields _ hread
    exact ⟨g.rest, read_eq_some_iff.2 (.condition hline hbuild), rfl⟩
  | rule hread hbuild =>
    obtain ⟨g, hline, rfl⟩ := hfields _ hread
    exact ⟨g.rest, read_eq_some_iff.2 (.rule hline hbuild), rfl⟩

end Line

/-! ### What is taken off a text -/

namespace Directive

open Text

variable {kind : DirectiveKind} {s rest : Text} {d : Directive}

/-- What is taken off a text is what is read, and blanks behind it. -/
theorem exists_of_consume_line (hkind : kind.block? = none)
    (h : consume kind s = .ok (some d, rest)) :
    ∃ behind, Line.read kind s = .ok (some (d, behind)) ∧ rest = trimStart behind := by
  rw [consume_of_line hkind] at h
  split at h
  · simp at h
  · rename_i d' behind hread
    obtain ⟨rfl, rfl⟩ : d' = d ∧ trimStart behind = rest := by simpa using h
    exact ⟨behind, hread, rfl⟩
  · simp at h

/-- The directive is that of the first line, and what is left are the other lines. -/
def TakesFirstLine (kind : DirectiveKind) (s : Text) (d : Directive) (rest : Text) : Prop :=
  consume kind (firstLine s) = .ok (some d, []) ∧ rest = trimStart (behindFirstLine s)

/-- A directive that does not go beyond its line takes the first line. -/
theorem takesFirstLine (hkind : kind.block? = none) (h : consume kind s = .ok (some d, rest))
    (hon : ¬ Line.GoesBeyond kind s) : TakesFirstLine kind s d rest := by
  obtain ⟨behind, hread, rfl⟩ := exists_of_consume_line hkind h
  rw [← firstLine_append s] at hread hon
  obtain ⟨rest', hline, rfl⟩ :=
    Line.read_of_append_behind (not_mem_firstLine s) (isBehindLine_dropWhile s) hread hon
  -- nothing of the line is left
  have hrest : rest' = [] := by
    have hsuffix := (Line.isRest_of_read hline).suffix
    have hbehind := Line.isBehindLine_of_read hline
    cases rest' with
    | nil => rfl
    | cons c rest' =>
      obtain rfl : c = '\n' := by simpa using hbehind c rfl
      exact absurd (hsuffix.subset List.mem_cons_self) (not_mem_firstLine s)
  subst hrest
  refine ⟨?_, ?_⟩
  · rw [consume_of_line hkind, hline]
    rfl
  · rw [trimStart_behindFirstLine, List.nil_append]

/-- If a field goes beyond its line, more is taken than the first line. -/
theorem ne_of_goesBeyond (hkind : kind.block? = none) (h : consume kind s = .ok (some d, rest))
    (hbeyond : Line.GoesBeyond kind s) : rest ≠ trimStart (behindFirstLine s) := by
  intro hrest
  obtain ⟨f, hf, hfeed⟩ := hbeyond
  obtain ⟨behind, hread, rfl⟩ := exists_of_consume_line hkind h
  obtain rfl := Line.rest_eq_of_read hf hread
  obtain ⟨front, behind, rfl, hfront, hsuffix⟩ := Line.exists_quote_of_fields? hf hfeed
  -- less is left than there is behind the first line
  have hlt := length_lt_behindFirstLine (r := behind) hfront (c := '"') (by decide)
  rw [← hrest] at hlt
  have hle := ((trimStart_suffix f.rest).trans hsuffix).length_le
  omega

/-- **First lines.** A directive that stands on a line is the one of the first line of the text, and
leaves the other lines, exactly if none of its fields goes beyond its line. Only in conditions and
rules a field may go beyond it, and only if there are quotes in the other lines. In any case a
directive is read up to the end of a line. -/
theorem consume_firstLine (hkind : kind.block? = none) (h : consume kind s = .ok (some d, rest)) :
    (TakesFirstLine kind s d rest ↔ ¬ Line.GoesBeyond kind s) ∧
      (Line.GoesBeyond kind s → (kind = .rewriteCond ∨ kind = .rewriteRule) ∧
        '"' ∈ behindFirstLine s) ∧
      ∃ front behind, s = front ++ behind ∧ IsBehindLine behind ∧ rest = trimStart behind := by
  refine ⟨⟨fun htakes hbeyond => ne_of_goesBeyond hkind h hbeyond htakes.2, takesFirstLine hkind h⟩,
    fun hbeyond => ⟨hbeyond.cond_or_rule, hbeyond.mem_behindFirstLine⟩, ?_⟩
  obtain ⟨behind, hread, rfl⟩ := exists_of_consume_line hkind h
  obtain ⟨front, heq⟩ := (Line.isRest_of_read hread).suffix
  exact ⟨front, behind, heq.symm, Line.isBehindLine_of_read hread, rfl⟩

/-- A rule that is read without its value. -/
theorem exists_of_isRead (s rest : Text)
    (h : ((consume .rewriteRule s).toOption.bind fun r => r.1.map fun _ => r.2) = some rest) :
    ∃ d, consume .rewriteRule s = .ok (some d, rest) := by
  obtain ⟨⟨r, behind⟩, hread, hr⟩ := Option.bind_eq_some_iff.1 h
  obtain ⟨d, rfl, rfl⟩ := Option.map_eq_some_iff.1 hr
  exact ⟨d, eq_ok_of_toOption hread⟩

/-- Quotes that are closed on their line, in front of a line with others. -/
theorem consume_firstLine_quoted :
    DirectiveKind.rewriteRule.block? = none ∧
      ∃ d, consume .rewriteRule "RewriteRule \"^/1 2\" /x [L]\r\n RewriteRule \"^/3\" /4".toList =
          .ok (some d, "RewriteRule \"^/3\" /4".toList) ∧
        TakesFirstLine .rewriteRule
          "RewriteRule \"^/1 2\" /x [L]\r\n RewriteRule \"^/3\" /4".toList d
          "RewriteRule \"^/3\" /4".toList := by
  obtain ⟨d, hread⟩ :=
    exists_of_isRead "RewriteRule \"^/1 2\" /x [L]\r\n RewriteRule \"^/3\" /4".toList
      "RewriteRule \"^/3\" /4".toList (by decide +kernel)
  refine ⟨rfl, d, hread, (consume_firstLine rfl hread).1.2 ?_⟩
  rintro ⟨f, hf, hfeed⟩
  have hfields :
      Line.fields? .rewriteRule "RewriteRule \"^/1 2\" /x [L]\r\n RewriteRule \"^/3\" /4".toList =
      some ⟨"^/1 2".toList, "/x".toList, "L".toList, "\n RewriteRule \"^/3\" /4".toList⟩ := by
    decide +kernel
  obtain rfl := Option.some.inj (hf.symm.trans hfields)
  exact hfeed (by decide)

/-- A quoted pattern in two lines: neither is the first line a directive, nor is the second one
left. -/
theorem not_consume_firstLine :
    ¬ ∀ (kind : DirectiveKind) (s : Text) (d : Directive) (rest : Text), kind.block? = none →
      consume kind s = .ok (some d, rest) →
      (∃ behind, consume kind (firstLine s) = .ok (some d, behind)) ∧
        rest = trimStart (behindFirstLine s) := by
  intro hall
  obtain ⟨d, hread⟩ :=
    exists_of_isRead "RewriteRule \"^/1\n2\" /x\nnext".toList "next".toList (by decide +kernel)
  have hrest := (hall .rewriteRule _ d _ rfl hread).2
  revert hrest
  decide +kernel

end Directive

end UrlRewrite
