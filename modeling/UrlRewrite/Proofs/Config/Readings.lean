import Mathlib.Data.List.Basic
import UrlRewrite.Proofs.Config.Written
import UrlRewrite.Proofs.Text.FirstLine

/-!
# Readings in front of a line feed

A line is read in the middle of a text, with other lines behind it (`Text.IsBehindLine`). The
readers of its parts end in front of a line feed, so that they read the same without these lines,
and leave what they leave of the line with the lines behind it (`Line.gap?_append_behind` and the
like).

Quotes are the exception, since they go up to the next quote wherever this is. So a text may have
readings that its first line does not have. `Line.ReadsField` says what the readings of a field have
in common: those without a line feed are those of the line alone. From it the same follows for the
readings of two fields and flags (`Line.filter_twoReadings`), of which the first one counts
(`Line.twoFields?_eq_head?`).
-/

namespace UrlRewrite

namespace Line

open Text

variable {l s t : Text}

/-- With flags or without them, a line is read to its end. -/
theorem flagsAndEnd?_eq (s : Text) :
    flagsAndEnd? s =
      ((flags? s).bind fun r => (lineEnd? r.2).map (r.1, ·)).or ((lineEnd? s).map ([], ·)) := by
  rw [flagsAndEnd?]
  split
  · rename_i r hboth
    have hflags : ((flags? s).bind fun r => (lineEnd? r.2).map (r.1, ·)) = some r := hboth
    rw [hflags, Option.some_or]
  · rename_i hnone
    have hflags : ((flags? s).bind fun r => (lineEnd? r.2).map (r.1, ·)) = none := hnone
    rw [hflags, Option.none_or]

/-- What stands behind a sign, if there is one. -/
def behindSign (s : Text) : Text :=
  match s with
  | '+' :: digits => digits
  | '-' :: digits => digits
  | _ => s

/-- What stands behind a number, perhaps with a sign. -/
def behindNumber? (s : Text) : Option Text :=
  match (behindSign s).takeWhile isDigit with
  | [] => none
  | _ => some ((behindSign s).dropWhile isDigit)

/-- A comparison is what stands in front of the rest of its text. -/
theorem comparison?_eq (s : Text) :
    comparison? s =
      (((Comparison.takeMnemonic? (Pattern.takeNegation s).2).bind fun r => gap? r.2).bind
        behindNumber?).map fun behind => (s.take (s.length - behind.length), behind) := by
  have hoperand (operand : Text) :
      (match (behindSign operand).takeWhile isDigit with
        | [] => none
        | _ => some (s.take (s.length - ((behindSign operand).dropWhile isDigit).length),
            (behindSign operand).dropWhile isDigit)) =
        (behindNumber? operand).map fun behind => (s.take (s.length - behind.length), behind) := by
    rw [behindNumber?]
    cases (behindSign operand).takeWhile isDigit <;> rfl
  change ((Comparison.takeMnemonic? (Pattern.takeNegation s).2).bind fun r =>
    (gap? r.2).bind fun operand =>
    match (behindSign operand).takeWhile isDigit with
    | [] => none
    | _ => some (s.take (s.length - ((behindSign operand).dropWhile isDigit).length),
        (behindSign operand).dropWhile isDigit)) = _
  simp only [hoperand, Option.bind_assoc, Option.map_bind, Function.comp_def]

/-! ### Readers in front of a line feed -/

/-- No letter of the name of a directive is a line feed, in any case. -/
theorem sameLetter_feed (kind : DirectiveKind) :
    Text.Each (sameLetter '\n' · = false) kind.name.toList := by
  cases kind <;> decide

section Behind

variable (ht : IsBehindLine t)

include ht

/-- A gap is read within its line. -/
theorem gap?_append_behind (s : Text) : gap? (s ++ t) = (gap? s).map (· ++ t) := by
  have hstops : Stops isGap t := ht.stops (by decide)
  cases s with
  | nil =>
    cases t with
    | nil => rfl
    | cons c t => simp [gap?, show isGap c = false from hstops c rfl]
  | cons c s =>
    simp only [List.cons_append, gap?, dropWhile_append_right hstops]
    split <;> rfl

/-- Whether a name begins a line does not depend on the lines behind it. -/
theorem behindName_append_behind (kind : DirectiveKind) (s : Text) :
    (afterKeyword? kind.name.toList (s ++ t)).bind gap? =
      ((afterKeyword? kind.name.toList s).bind gap?).map (· ++ t) := by
  rw [afterKeyword?_append_behind ht (sameLetter_feed kind), Option.bind_map, Option.map_bind]
  simp only [Function.comp_def, gap?_append_behind ht]

theorem lineEnd?_append_behind (s : Text) : lineEnd? (s ++ t) = (lineEnd? s).map (· ++ t) := by
  have hstops : Stops (fun c => isGap c || c == '\r') t := ht.stops (by decide)
  simp only [lineEnd?, dropWhile_append_right hstops]
  cases s.dropWhile (fun c => isGap c || c == '\r') with
  | nil =>
    cases t with
    | nil => rfl
    | cons c t =>
      obtain rfl : c = '\n' := by simpa using ht c rfl
      rfl
  | cons c rest =>
    simp only [List.cons_append]
    split <;> rfl

theorem bare?_append_behind (s : Text) : bare? (s ++ t) = (bare? s).map (Prod.map id (· ++ t)) :=
  takeRun?_append_right (ht.stops (by decide)) s

theorem flags?_append_behind (s : Text) :
    flags? (s ++ t) = (flags? s).map (Prod.map id (· ++ t)) := by
  have hread :=
    bracketed?_append_right (p := isFlagChar) (ht.stops (by decide)) (ht.head?_ne (by decide))
      (ht.head?_ne (by decide))
  simp only [flags?, gap?_append_behind ht, Option.bind_map, Option.map_bind,
    Function.comp_def, hread]

/-- Flags and the end of the line are read within the line. -/
theorem flagsAndEnd?_append_behind (s : Text) :
    flagsAndEnd? (s ++ t) = (flagsAndEnd? s).map (Prod.map id (· ++ t)) := by
  simp only [flagsAndEnd?_eq, flags?_append_behind ht, lineEnd?_append_behind ht, Option.map_or,
    Option.bind_map, Option.map_bind, Option.map_map, Function.comp_def, Prod.map_fst, Prod.map_snd,
    Prod.map_apply, id]

theorem takeNegation_append_behind (s : Text) :
    Pattern.takeNegation (s ++ t) =
      ((Pattern.takeNegation s).1, (Pattern.takeNegation s).2 ++ t) := by
  cases s with
  | nil =>
    rw [List.nil_append, Pattern.takeNegation.eq_def]
    split
    · exact absurd rfl (ht.head?_ne (c := '!') (by decide))
    · rfl
  | cons c s => by_cases hc : c = '!' <;> simp [Pattern.takeNegation, hc]

theorem takeMnemonic?_append_behind (s : Text) :
    Comparison.takeMnemonic? (s ++ t) =
      (Comparison.takeMnemonic? s).map (Prod.map id (· ++ t)) := by
  have hmnemonic (c : Comparison) : '\n' ∉ c.mnemonic := by cases c <;> decide
  simp only [Comparison.takeMnemonic?, isPrefixOf?_append_behind ht (hmnemonic _), Option.map_map]
  rw [List.map_findSome?]
  congr 1
  funext c
  simp [Function.comp_def]

theorem behindSign_append_behind (s : Text) : behindSign (s ++ t) = behindSign s ++ t := by
  cases s with
  | nil =>
    rw [List.nil_append, behindSign.eq_def t]
    split
    · exact absurd rfl (ht.head?_ne (c := '+') (by decide))
    · exact absurd rfl (ht.head?_ne (c := '-') (by decide))
    · rfl
  | cons c s =>
    by_cases hplus : c = '+' <;> by_cases hminus : c = '-' <;> simp [behindSign, hplus, hminus]

theorem behindNumber?_append_behind (s : Text) :
    behindNumber? (s ++ t) = (behindNumber? s).map (· ++ t) := by
  have hstops : Stops isDigit t := ht.stops (by decide)
  simp only [behindNumber?, behindSign_append_behind ht, takeWhile_append_right hstops,
    dropWhile_append_right hstops]
  split <;> rfl

theorem comparison?_append_behind (s : Text) :
    comparison? (s ++ t) = (comparison? s).map (Prod.map id (· ++ t)) := by
  have hbehind :
      (((Comparison.takeMnemonic? (Pattern.takeNegation (s ++ t)).2).bind fun r => gap? r.2).bind
        behindNumber?) =
      (((Comparison.takeMnemonic? (Pattern.takeNegation s).2).bind fun r => gap? r.2).bind
        behindNumber?).map (· ++ t) := by
    simp only [takeNegation_append_behind ht, takeMnemonic?_append_behind ht, Option.bind_map,
      Function.comp_def, Prod.map_snd, gap?_append_behind ht, Option.bind_assoc,
      behindNumber?_append_behind ht, Option.map_bind]
  rw [comparison?_eq, comparison?_eq, hbehind, Option.map_map, Option.map_map]
  congr 1
  funext behind
  have hlength : (s ++ t).length - (behind ++ t).length = s.length - behind.length := by
    rw [List.length_append, List.length_append, Nat.add_sub_add_right]
  simp only [Function.comp_apply, Prod.map_apply, id, hlength,
    List.take_append_of_le_length (Nat.sub_le _ _)]

end Behind

/-! ### Readings of fields -/

/-- A field in quotes is in front of the rest, and ends with its closing quote. -/
theorem eq_append_of_quoted? {r : Text × Text} (h : quoted? s = some r) :
    s = r.1 ++ r.2 ∧ ∃ body, r.1 = '"' :: body ++ ['"'] := by
  rw [quoted?.eq_def] at h
  split at h
  · obtain ⟨⟨body, behind⟩, hsplit, rfl⟩ := Option.map_eq_some_iff.1 h
    obtain ⟨rfl, -⟩ := eq_append_of_splitFirst hsplit
    exact ⟨by simp, body, rfl⟩
  · simp at h

theorem eq_append_of_bare? {r : Text × Text} (h : bare? s = some r) :
    s = r.1 ++ r.2 ∧ r.1.Each (isBlank · = false) := by
  rw [bare?, takeRun?] at h
  split at h
  · simp at h
  · obtain rfl := Option.some.inj h
    refine ⟨(List.takeWhile_append_dropWhile).symm, fun c hc => ?_⟩
    simpa using List.mem_takeWhile_imp hc

theorem eq_append_of_comparison? {r : Text × Text} (h : comparison? s = some r) :
    s = r.1 ++ r.2 := by
  have hsuffix := suffix_of_comparison? h
  rw [comparison?_eq] at h
  obtain ⟨behind, -, rfl⟩ := Option.map_eq_some_iff.1 h
  exact (List.suffix_iff_eq_append.1 hsuffix).symm

/-- A comparison is written on one line. -/
theorem not_mem_of_comparison? {r : Text × Text} (h : comparison? s = some r) : '\n' ∉ r.1 := by
  rw [← firstLine_append s, comparison?_append_behind (isBehindLine_dropWhile s)] at h
  obtain ⟨r', hr', rfl⟩ := Option.map_eq_some_iff.1 h
  intro hfeed
  exact not_mem_firstLine s (eq_append_of_comparison? hr' ▸ List.mem_append_left _ hfeed)

/-- A quoted field of the line alone is one in front of a line feed; any other quotes end in a later
line. -/
theorem filter_quoted?_append_behind (hl : '\n' ∉ l) (ht : IsBehindLine t) :
    (quoted? (l ++ t)).toList.filter (fun r => '\n' ∉ r.1) =
      (quoted? l).toList.map (Prod.map id (· ++ t)) := by
  by_cases hquote : l.head? = some '"'
  · obtain ⟨l, rfl⟩ := List.head?_eq_some_iff.1 hquote
    have hline : '\n' ∉ l := fun hmem => hl (List.mem_cons_of_mem _ hmem)
    simp only [List.cons_append, quoted?]
    -- the quote is closed on its line, or it is closed behind it and has a line feed, or not at all
    cases hsplit : splitFirst '"' l with
    | some parts =>
      obtain ⟨body, behind⟩ := parts
      obtain ⟨rfl, hbody⟩ := eq_append_of_splitFirst hsplit
      have hfeed : '\n' ∉ body := fun hmem => hline (List.mem_append_left _ hmem)
      simp [splitFirst_append hbody, hfeed]
    | none =>
      rw [splitFirst_append_of_not_mem (splitFirst_eq_none_iff.1 hsplit)]
      cases hbehind : splitFirst '"' t with
      | none => rfl
      | some parts =>
        obtain ⟨body, behind⟩ := parts
        obtain ⟨rfl, -⟩ := eq_append_of_splitFirst hbehind
        have hfeed : '\n' ∈ body := by
          cases body with
          | nil => exact absurd rfl (ht.head?_ne (c := '"') (by decide))
          | cons c body =>
            obtain rfl : c = '\n' := by simpa using ht c rfl
            exact List.mem_cons_self
        simp [hfeed]
  · have hquote' : (l ++ t).head? ≠ some '"' := by
      cases l with
      | nil => exact ht.head?_ne (by decide)
      | cons c l => exact hquote
    rw [quoted?_eq_none hquote, quoted?_eq_none hquote']
    rfl

/-- Of the readings in front of a line feed, none is lost if they hold none. -/
theorem filter_map_append {rs : List (Text × Text)} (h : ∀ r ∈ rs, '\n' ∉ r.1) (t : Text) :
    (rs.map (Prod.map id (· ++ t))).filter (fun r => '\n' ∉ r.1) =
      rs.map (Prod.map id (· ++ t)) := by
  refine List.filter_eq_self.2 fun r hr => ?_
  obtain ⟨r', hr', rfl⟩ := List.mem_map.1 hr
  exact decide_eq_true (h r' hr')

/-- What the readings of a field have in common. -/
structure ReadsField (readings : Text → List (Text × Text)) : Prop where
  /-- A field stands at the beginning of the text, and the rest follows it. -/
  append : ∀ {s r}, r ∈ readings s → s = r.1 ++ r.2
  /-- Only in quotes there are line feeds. -/
  quote : ∀ {s r}, r ∈ readings s → '\n' ∈ r.1 → ∃ body, r.1 = '"' :: body ++ ['"']
  /-- Without line feeds, the readings are those of the line alone. -/
  line : ∀ {l t}, '\n' ∉ l → IsBehindLine t →
    (readings (l ++ t)).filter (fun r => '\n' ∉ r.1) = (readings l).map (Prod.map id (· ++ t))

/-- A field is read from its line, unless quotes go beyond it. -/
theorem readsField_fieldReadings : ReadsField fieldReadings where
  append {s r} h := by
    rcases List.mem_append.1 h with h | h
    · exact (eq_append_of_quoted? (Option.mem_toList.1 h)).1
    · exact (eq_append_of_bare? (Option.mem_toList.1 h)).1
  quote {s r} h hfeed := by
    rcases List.mem_append.1 h with h | h
    · exact (eq_append_of_quoted? (Option.mem_toList.1 h)).2
    · exact absurd ((eq_append_of_bare? (Option.mem_toList.1 h)).2 _ hfeed) (by decide)
  line {l t} hl ht := by
    have hbare : ∀ r ∈ (bare? l).toList, '\n' ∉ r.1 := by
      intro r hr hfeed
      exact absurd ((eq_append_of_bare? (Option.mem_toList.1 hr)).2 _ hfeed) (by decide)
    rw [fieldReadings, bare?_append_behind ht, List.filter_append,
      filter_quoted?_append_behind hl ht, Option.toList_map, filter_map_append hbare, fieldReadings,
      List.map_append]

/-- A pattern is read from its line, unless quotes go beyond it. -/
theorem readsField_patternReadings : ReadsField patternReadings where
  append {s r} h := by
    rcases List.mem_append.1 h with h | h
    · exact eq_append_of_comparison? (Option.mem_toList.1 h)
    · exact readsField_fieldReadings.append h
  quote {s r} h hfeed := by
    rcases List.mem_append.1 h with h | h
    · exact absurd hfeed (not_mem_of_comparison? (Option.mem_toList.1 h))
    · exact readsField_fieldReadings.quote h hfeed
  line {l t} hl ht := by
    have hcomparison : ∀ r ∈ (comparison? l).toList, '\n' ∉ r.1 := fun r hr =>
      not_mem_of_comparison? (Option.mem_toList.1 hr)
    rw [patternReadings, comparison?_append_behind ht, List.filter_append, Option.toList_map,
      filter_map_append hcomparison, readsField_fieldReadings.line hl ht, patternReadings,
      List.map_append]

/-! ### Readings of lines -/

/-- No field goes beyond its line. -/
def Fields.OnLine (f : Fields) : Prop := '\n' ∉ f.first ∧ '\n' ∉ f.second

instance : DecidablePred Fields.OnLine := fun _ => inferInstanceAs (Decidable (_ ∧ _))

/-- The fields of a line with more text behind it. -/
def Fields.inFrontOf (t : Text) (f : Fields) : Fields := { f with rest := f.rest ++ t }

/-- The readings of a field and flags behind the field `a`, the preferred one first. -/
def secondReadings (second : Text → List (Text × Text)) (a s : Text) : List Fields :=
  (second s).flatMap fun b => (flagsAndEnd? b.2).toList.map fun e =>
    ⟨unquote a, unquote b.1, unquote e.1, e.2⟩

/-- The readings of two fields and flags, the preferred one first. -/
def twoReadings (second : Text → List (Text × Text)) (s : Text) : List Fields :=
  (fieldReadings s).flatMap fun a => (gap? a.2).toList.flatMap fun s => secondReadings second a.1 s

variable {second : Text → List (Text × Text)} {f : Fields}

/-- A reading of the second field is followed by flags, if there are any, and by the end of the
line. -/
theorem mem_secondReadings {a : Text} : f ∈ secondReadings second a s ↔
    ∃ b ∈ second s, ∃ e,
      flagsAndEnd? b.2 = some e ∧ f = ⟨unquote a, unquote b.1, unquote e.1, e.2⟩ := by
  simp [secondReadings, eq_comm]

/-- A reading of two fields is one of the first field, and behind a gap one of the second. -/
theorem mem_twoReadings : f ∈ twoReadings second s ↔
    ∃ a ∈ fieldReadings s, ∃ s', gap? a.2 = some s' ∧ f ∈ secondReadings second a.1 s' := by
  simp [twoReadings]

/-- The preferred reading is the one that counts. -/
theorem twoFields?_eq_head? (keyword : String) (second : Text → List (Text × Text)) (s : Text) :
    twoFields? keyword second s =
      ((afterKeyword? keyword.toList s).bind gap?).bind fun s => (twoReadings second s).head? := by
  simp only [twoFields?, Option.bind_eq_bind, Option.bind_assoc, twoReadings, List.head?_flatMap]
  congr 1
  funext s
  congr 1
  funext s
  congr 1
  funext a
  cases gap? a.2 with
  | none => rfl
  | some s =>
    simp only [Option.bind_some, Option.toList_some, List.findSome?_singleton, secondReadings,
      List.head?_flatMap]
    congr 1
    funext b
    cases flagsAndEnd? b.2 <;> rfl

/-- Quotes apart, a field holds what is written in it. -/
theorem mem_unquote {c : Char} (hc : c ≠ '"') {a : Text} : c ∈ unquote a ↔ c ∈ a := by
  rw [unquote.eq_def]
  split
  · rename_i body
    split
    · rename_i hlast
      obtain ⟨front, rfl⟩ := List.getLast?_eq_some_iff.1 hlast
      simp [hc]
    · rfl
  · rfl

/-- What is made of the readings of a field has no line feed in a field exactly if it is made of the
line alone. -/
theorem filter_flatMap_readings {readings : Text → List (Text × Text)}
    (hreadings : ReadsField readings) (hl : '\n' ∉ l) (ht : IsBehindLine t)
    {make : Text × Text → List Fields}
    (hbeyond : ∀ r, '\n' ∈ r.1 → (make r).filter Fields.OnLine = [])
    (hline : ∀ a rest, '\n' ∉ a → '\n' ∉ rest →
      (make (a, rest ++ t)).filter Fields.OnLine = (make (a, rest)).map (Fields.inFrontOf t)) :
    ((readings (l ++ t)).flatMap make).filter Fields.OnLine =
      ((readings l).flatMap make).map (Fields.inFrontOf t) := by
  -- readings whose first field goes beyond the line make nothing that stays on it
  have hdrop (rs : List (Text × Text)) : rs.flatMap (fun r => (make r).filter Fields.OnLine) =
      (rs.filter fun r => '\n' ∉ r.1).flatMap fun r => (make r).filter Fields.OnLine := by
    induction rs with
    | nil => rfl
    | cons r rs ih =>
      by_cases hfeed : '\n' ∈ r.1
      · simp [hbeyond r hfeed, hfeed, ih]
      · simp [hfeed, ih]
  rw [List.filter_flatMap, hdrop, hreadings.line hl ht, List.flatMap_map, List.map_flatMap]
  refine List.flatMap_congr fun r hr => ?_
  rw [hreadings.append hr, List.mem_append, not_or] at hl
  exact hline r.1 r.2 hl.1 hl.2

/-- Of the second field, the readings on one line are those that the line alone has. -/
theorem filter_secondReadings (hsecond : ReadsField second) {a : Text} (ha : '\n' ∉ a)
    (hl : '\n' ∉ l) (ht : IsBehindLine t) :
    (secondReadings second a (l ++ t)).filter Fields.OnLine =
      (secondReadings second a l).map (Fields.inFrontOf t) := by
  have hfeed {c : Text} : '\n' ∈ unquote c ↔ '\n' ∈ c := mem_unquote (by decide)
  refine filter_flatMap_readings hsecond hl ht (fun b hb => ?_) fun b rest hb hrest => ?_
  · cases flagsAndEnd? b.2 with
    | none => rfl
    | some e => simp [Fields.OnLine, hfeed, hb]
  · rw [flagsAndEnd?_append_behind ht]
    cases flagsAndEnd? rest with
    | none => rfl
    | some e => simp [Fields.OnLine, hfeed, ha, hb, Fields.inFrontOf]

/-- The readings of a text that hold no line feed in a field are those of its first line. -/
theorem filter_twoReadings (hsecond : ReadsField second) (hl : '\n' ∉ l) (ht : IsBehindLine t) :
    (twoReadings second (l ++ t)).filter Fields.OnLine =
      (twoReadings second l).map (Fields.inFrontOf t) := by
  refine filter_flatMap_readings readsField_fieldReadings hl ht (fun a ha => ?_)
    fun a rest ha hrest => ?_
  · cases gap? a.2 with
    | none => rfl
    | some s =>
      rw [Option.toList_some, List.flatMap_singleton, List.filter_eq_nil_iff]
      intro f hf hon
      obtain ⟨b, -, e, -, rfl⟩ := mem_secondReadings.1 hf
      have hfirst : '\n' ∉ unquote a.1 := (of_decide_eq_true hon).1
      exact hfirst ((mem_unquote (by decide)).2 ha)
  · rw [gap?_append_behind ht]
    cases hgap : gap? rest with
    | none => rfl
    | some s =>
      have hs : '\n' ∉ s := fun hmem => hrest ((isRest_of_gap? hgap).suffix.subset hmem)
      simpa using filter_secondReadings hsecond ha hs ht

/-- A line ends where it is said to end. -/
theorem isBehindLine_of_lineEnd? {rest : Text} (h : lineEnd? s = some rest) :
    IsBehindLine rest := by
  rw [lineEnd?] at h
  split at h
  · obtain rfl := Option.some.inj h
    exact .nil
  · obtain ⟨rfl, heq⟩ := Option.ite_none_right_eq_some.1 h
    obtain rfl := Option.some.inj heq
    exact .cons (by decide) _

/-- Flags are read up to the end of a line. -/
theorem isBehindLine_of_flagsAndEnd? {e : Text × Text} (h : flagsAndEnd? s = some e) :
    IsBehindLine e.2 := by
  rw [flagsAndEnd?_eq] at h
  rcases Option.or_eq_some_iff.1 h with hflags | ⟨-, hplain⟩
  · obtain ⟨r, -, hmap⟩ := Option.bind_eq_some_iff.1 hflags
    obtain ⟨rest, hend, rfl⟩ := Option.map_eq_some_iff.1 hmap
    exact isBehindLine_of_lineEnd? hend
  · obtain ⟨rest, hend, rfl⟩ := Option.map_eq_some_iff.1 hplain
    exact isBehindLine_of_lineEnd? hend

/-- Two fields are read up to the end of a line. -/
theorem isBehindLine_of_twoReadings (h : f ∈ twoReadings second s) : IsBehindLine f.rest := by
  obtain ⟨a, -, s', -, hf⟩ := mem_twoReadings.1 h
  obtain ⟨b, -, e, hend, rfl⟩ := mem_secondReadings.1 hf
  exact isBehindLine_of_flagsAndEnd? hend

/-- A field with a line feed in it is quoted, and what follows it stands behind the closing
quote. -/
theorem ReadsField.exists_quote {readings : Text → List (Text × Text)}
    (hreadings : ReadsField readings) {r : Text × Text} (h : r ∈ readings s)
    (hfeed : '\n' ∈ unquote r.1) :
    ∃ front, s = front ++ '"' :: r.2 ∧ '\n' ∈ front := by
  have hfeed' : '\n' ∈ r.1 := (mem_unquote (by decide)).1 hfeed
  obtain ⟨body, hbody⟩ := hreadings.quote h hfeed'
  rw [hbody] at hfeed'
  refine ⟨'"' :: body, ?_, ?_⟩
  · rw [hreadings.append h, hbody, List.append_assoc, List.singleton_append]
  · simpa using hfeed'

/-- If a field goes beyond its line, there is a quote in a later line in front of what follows the
fields. -/
theorem exists_quote_of_twoReadings (hsecond : ReadsField second) (h : f ∈ twoReadings second s)
    (hfeed : ¬ f.OnLine) :
    ∃ front behind, s = front ++ '"' :: behind ∧ '\n' ∈ front ∧ f.rest <:+ behind := by
  obtain ⟨a, ha, s', hgap, hf⟩ := mem_twoReadings.1 h
  obtain ⟨b, hb, e, hend, rfl⟩ := mem_secondReadings.1 hf
  have hrest : e.2 <:+ b.2 := suffix_of_flagsAndEnd? hend
  have hs' : s' <:+ a.2 := (isRest_of_gap? hgap).suffix
  -- the line feed is in the first field or in the second one, and a quote closes that field
  by_cases hfirst : '\n' ∈ unquote a.1
  · obtain ⟨front, hs, hfront⟩ := readsField_fieldReadings.exists_quote ha hfirst
    have hb2 : b.2 <:+ s' := ⟨b.1, (hsecond.append hb).symm⟩
    exact ⟨front, a.2, hs, hfront, hrest.trans (hb2.trans hs')⟩
  · have hfeed' : '\n' ∈ unquote b.1 := by
      by_cases hmem : '\n' ∈ unquote b.1
      · exact hmem
      · exact absurd ⟨hfirst, hmem⟩ hfeed
    obtain ⟨front, hb', hfront⟩ := hsecond.exists_quote hb hfeed'
    obtain ⟨gap, hgap'⟩ := hs'
    refine ⟨a.1 ++ (gap ++ front), b.2, ?_, by simp [hfront], hrest⟩
    rw [readsField_fieldReadings.append ha, ← hgap', hb']
    simp

end Line

end UrlRewrite
