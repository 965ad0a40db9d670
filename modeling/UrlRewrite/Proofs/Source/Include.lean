import Mathlib.Data.List.TakeWhile
import UrlRewrite.Proofs.Text.Keyword
import UrlRewrite.Proofs.Text.Pieces
import UrlRewrite.Result
import UrlRewrite.Source.Include

/-!
# Includes are put in place

What comes of a text with include lines, if a function says what each path leads to. Files may
include each other in circles.

* `Source.visits` lists the include lines of a text and of what it includes, depth first and in the
  order in which they are read. A file that is nested too deep is not entered, so that there are
  finitely many of them.
* `Source.Expands` says which text lines stand for, at whatever depth.
* `Source.PutInPlace` says what comes of the text: the first visit that fails decides the error
  (`Visit.error?`), and if none fails the text is what its lines stand for. The paths that are asked
  for are those of the visits, up to the one that fails. It holds of all texts
  (`Source.putInPlace`).

The induction is on how deep includes may still be nested, and within a text it is on the lines.
What it carries is `Source.Follows`.

An expanded text has no include lines. Its lines are not quite those that have been put into it, for
a line that has kept a carriage return loses it when the text is read again. But a carriage return
at the end has no say in whether a line is an include line (`Source.includeLine?_dropReturn`).
-/

namespace UrlRewrite

namespace Source

/-! ### Include lines -/

/-- What may stand behind the path of an include line. -/
def isTail (c : Char) : Bool := isGap c || c == '\r'

theorem isBlank_of_isTail {c : Char} (h : isTail c = true) : isBlank c = true := by
  rcases Bool.or_eq_true_iff.1 h with hgap | hreturn
  · exact isBlank_of_isGap hgap
  · rw [beq_iff_eq.1 hreturn]
    rfl

/-- The path of an include is one word behind a gap, and only blanks follow it. -/
theorem includePath?_eq_some_iff {s path : Text} :
    includePath? s = some path ↔ ∃ gap tail, s = gap ++ path ++ tail ∧ gap ≠ [] ∧
      (∀ c ∈ gap, isGap c = true) ∧
      path ≠ [] ∧ (∀ c ∈ path, isBlank c = false) ∧ ∀ c ∈ tail, isTail c = true := by
  constructor
  · intro h
    rw [includePath?.eq_def] at h
    split at h
    · cases h
    · rename_i c rest
      obtain ⟨hcond, hpath⟩ := Option.ite_none_right_eq_some.1 h
      obtain ⟨⟨hc, hne⟩, htail⟩ : (isGap c = true ∧ _ ≠ []) ∧ ∀ d ∈ _, isTail d = true := by
        simpa only [Bool.and_eq_true, Bool.not_eq_true', List.isEmpty_eq_false_iff,
          List.all_eq_true, isTail] using
          hcond
      -- the three parts are the runs that the reader takes one after the other
      obtain rfl := Option.some.inj hpath
      refine ⟨(c :: rest).takeWhile isGap, _, ?_, ?_, ?_, hne, ?_, htail⟩
      · rw [List.append_assoc, List.takeWhile_append_dropWhile, List.takeWhile_append_dropWhile]
      · simp [hc]
      · exact fun d hd => List.mem_takeWhile_imp hd
      · exact fun d hd => by simpa using List.mem_takeWhile_imp hd
  · rintro ⟨gap, tail, rfl, hne, hgap, hpath, hword, htail⟩
    obtain ⟨c, gap, rfl⟩ := List.exists_cons_of_ne_nil hne
    -- each part ends where the next one begins, so that the runs are these parts
    have hpathStops : Text.Stops isGap (path ++ tail) :=
      .append_of_ne_nil hpath (fun d hd => isGap_eq_false (hword d hd)) tail
    have htailStops : Text.Stops (!isBlank ·) tail :=
      .of_forall fun d hd => by simp [isBlank_of_isTail (htail d hd)]
    have hbody : (c :: (gap ++ path ++ tail)).dropWhile isGap = path ++ tail := by
      rw [List.append_assoc, ← List.cons_append, Text.dropWhile_append hgap hpathStops]
    have hwords : ∀ d ∈ path, (!isBlank d) = true := fun d hd => by simp [hword d hd]
    simp only [List.cons_append, includePath?, hbody, Text.takeWhile_append hwords htailStops,
      Text.dropWhile_append hwords htailStops]
    rw [if_pos]
    simpa [hgap c List.mem_cons_self, hpath, isTail] using htail

/-- A gap or a carriage return behind a path changes nothing. -/
theorem includePath?_concat {c : Char} (hc : isTail c = true) (s : Text) :
    includePath? (s ++ [c]) = includePath? s := by
  refine Option.ext fun path => ?_
  rw [includePath?_eq_some_iff, includePath?_eq_some_iff]
  constructor
  · rintro ⟨gap, tail, heq, hne, hgap, hpath, hword, htail⟩
    rcases List.eq_nil_or_concat tail with rfl | ⟨tail, d, rfl⟩
    · -- the path would end with a blank
      obtain ⟨front, last, rfl⟩ := (List.eq_nil_or_concat path).resolve_left hpath
      rw [List.append_nil, List.concat_eq_append, ← List.append_assoc] at heq
      obtain ⟨-, hlast⟩ := List.append_inj' heq rfl
      have hblank := hword c (by simp [List.singleton_inj.1 hlast])
      rw [isBlank_of_isTail hc] at hblank
      cases hblank
    · rw [List.concat_eq_append, ← List.append_assoc] at heq
      obtain ⟨rfl, -⟩ := List.append_inj' heq rfl
      exact ⟨gap, tail, rfl, hne, hgap, hpath, hword, fun e he => htail e (by simp [he])⟩
  · rintro ⟨gap, tail, rfl, hne, hgap, hpath, hword, htail⟩
    refine ⟨gap, tail ++ [c], List.append_assoc _ tail [c], hne, hgap, hpath, hword, fun d hd => ?_⟩
    exact (List.mem_append.1 hd).elim (htail d) fun hlast => List.mem_singleton.1 hlast ▸ hc

/-- A carriage return at the end of a line has no say in whether it is an include line, and of which
path. -/
theorem includeLine?_append_return (line : Text) :
    includeLine? (line ++ ['\r']) = includeLine? line := by
  have hstops : Text.Stops isGap ['\r'] := .cons (by decide) []
  -- it is no letter of either word
  have hinclude : Text.Each (sameLetter '\r' · = false) "Include".toList := by decide
  have hoptional : Text.Each (sameLetter '\r' · = false) "Optional".toList := by decide
  have hpath (s : Text) : includePath? (s ++ ['\r']) = includePath? s :=
    includePath?_concat (by decide) s
  rw [includeLine?, includeLine?, Text.dropWhile_append_right hstops,
    Text.afterKeyword?_append_cons hinclude]
  cases Text.afterKeyword? "Include".toList (line.dropWhile isGap) with
  | none => rfl
  | some rest =>
    simp only [Option.map_some, Option.bind_eq_bind, Option.bind_some,
      Text.afterKeyword?_append_cons hoptional, hpath, Option.bind_map, Function.comp_def]

/-- It does not matter to an include line whether it ends in a carriage return. -/
theorem includeLine?_dropReturn (line : Text) :
    includeLine? (Text.dropReturn line) = includeLine? line := by
  rw [Text.dropReturn]
  split
  · rename_i hlast
    obtain ⟨front, rfl⟩ := List.getLast?_eq_some_iff.1 hlast
    rw [List.dropLast_concat, includeLine?_append_return]
  · rfl

/-- **Include lines.** There is a keyword, in whatever case, then a gap, and then the path, a word.
A gap may stand in front of the keyword, and gaps and carriage returns behind the path. -/
def IsIncludeLine (line : Text) (optional : Bool) (path : Text) : Prop :=
  ∃ indent keyword gap tail : Text, line = indent ++ (keyword ++ (gap ++ path ++ tail)) ∧
    (∀ c ∈ indent, isGap c = true) ∧
    keyword.map simpleFold =
      (if optional then "IncludeOptional" else "Include").toList.map simpleFold ∧
    gap ≠ [] ∧ (∀ c ∈ gap, isGap c = true) ∧
    path ≠ [] ∧ (∀ c ∈ path, isBlank c = false) ∧ ∀ c ∈ tail, isTail c = true

/-- No gap has the letter of a keyword. -/
theorem sameLetter_eq_false_of_isGap {c d : Char} (hd : d = 'I' ∨ d = 'O') (hc : isGap c = true) :
    sameLetter c d = false := by
  rw [isGap, Bool.or_eq_true, beq_iff_eq, beq_iff_eq] at hc
  rcases hc with rfl | rfl <;> rcases hd with rfl | rfl <;> decide

/-- In front of the keyword there is all of the gap that the line begins with. -/
theorem dropWhile_append_keyword {indent keyword word : Text}
    (hindent : ∀ c ∈ indent, isGap c = true)
    (hfold : keyword.map simpleFold = ('I' :: word).map simpleFold) (behind : Text) :
    (indent ++ (keyword ++ behind)).dropWhile isGap = keyword ++ behind := by
  obtain ⟨c, keyword, rfl, hc, -⟩ := List.map_eq_cons_iff.1 hfold
  refine Text.dropWhile_append hindent (.cons (Bool.eq_false_iff.2 fun hgap => ?_) _)
  have hdiffers := sameLetter_eq_false_of_isGap (.inl rfl) hgap
  rw [sameLetter, hc, beq_self_eq_true] at hdiffers
  cases hdiffers

/-- The include lines are those with a keyword and a path, and no others. -/
theorem includeLine?_eq_some_iff {line path : Text} {optional : Bool} :
    includeLine? line = some (optional, path) ↔ IsIncludeLine line optional path := by
  constructor
  · intro h
    obtain ⟨rest, hrest, h⟩ := Option.bind_eq_some_iff.1 h
    obtain ⟨keyword, hline, hkeyword⟩ := Text.afterKeyword?_eq_some_iff.1 hrest
    have hindent : ∀ c ∈ line.takeWhile isGap, isGap c = true :=
      fun c hc => List.mem_takeWhile_imp hc
    have hwhole : line = line.takeWhile isGap ++ (keyword ++ rest) := by
      rw [← hline, List.takeWhile_append_dropWhile]
    split at h
    · -- the longer keyword is the shorter one and another word
      rename_i path' hoptional
      obtain ⟨rfl, rfl⟩ := Prod.mk.inj (Option.some.inj h)
      obtain ⟨rest', hrest', hpath⟩ := Option.bind_eq_some_iff.1 hoptional
      obtain ⟨word, rfl, hword⟩ := Text.afterKeyword?_eq_some_iff.1 hrest'
      obtain ⟨gap, tail, rfl, hfacts⟩ := includePath?_eq_some_iff.1 hpath
      refine ⟨_, keyword ++ word, gap, tail, by rw [List.append_assoc keyword]; exact hwhole,
        hindent, ?_, hfacts⟩
      rw [List.map_append, hkeyword, hword]
      rfl
    · obtain ⟨path', hpath, heq⟩ := Option.map_eq_some_iff.1 h
      obtain ⟨rfl, rfl⟩ := Prod.mk.inj heq
      obtain ⟨gap, tail, rfl, hfacts⟩ := includePath?_eq_some_iff.1 hpath
      exact ⟨_, keyword, gap, tail, hwhole, hindent, hkeyword, hfacts⟩
  · rintro ⟨indent, keyword, gap, tail, rfl, hindent, hfold, hfacts⟩
    have hpath : includePath? (gap ++ path ++ tail) = some path :=
      includePath?_eq_some_iff.2 ⟨gap, tail, rfl, hfacts⟩
    cases optional with
    | false =>
      have hinclude : keyword.map simpleFold = "Include".toList.map simpleFold := hfold
      have hoptional : Text.afterKeyword? "Optional".toList (gap ++ path ++ tail) = none := by
        obtain ⟨c, gap, rfl⟩ := List.exists_cons_of_ne_nil hfacts.1
        exact Text.afterKeyword?_eq_none (i := 0) rfl rfl
          (sameLetter_eq_false_of_isGap (.inr rfl) (hfacts.2.1 c List.mem_cons_self))
      rw [includeLine?, dropWhile_append_keyword hindent hfold,
        Text.afterKeyword?_eq_some_iff.2 ⟨keyword, rfl, hinclude⟩]
      simp only [Option.bind_eq_bind, Option.bind_some, hoptional, Option.bind_none, hpath,
        Option.map_some]
    | true =>
      have hboth : keyword.map simpleFold =
          "Include".toList.map simpleFold ++ "Optional".toList.map simpleFold := hfold
      obtain ⟨front, word, rfl, hfront, hword⟩ := List.map_eq_append_iff.1 hboth
      rw [includeLine?, dropWhile_append_keyword hindent hfold, List.append_assoc,
        Text.afterKeyword?_eq_some_iff.2 ⟨front, rfl, hfront⟩]
      simp only [Option.bind_eq_bind, Option.bind_some,
        Text.afterKeyword?_eq_some_iff.2 ⟨word, rfl, hword⟩, hpath]

/-! ### What includes ask for -/

/-- An include line that has been come across. -/
structure Visit where
  /-- How deep the file is nested that the line asks for. It is 1 for the lines of the text
  itself. -/
  depth : Nat
  optional : Bool
  path : Text
  /-- What the path leads to. -/
  contents : Option Text
deriving DecidableEq, Repr

/-- Why an include line cannot be replaced: there is no file, and there has to be one, or there is
one that is nested too deep. -/
def Visit.error? (v : Visit) : Option SourceError :=
  match v.contents with
  | none => if v.optional then none else some (.missingInclude v.path)
  | some _ => if 16 < v.depth then some (.includeDepth 16) else none

theorem Visit.error?_of_found {depth : Nat} {optional : Bool} {path contents : Text}
    (h : depth ≤ 16) :
    error? ⟨depth, optional, path, some contents⟩ = none :=
  if_neg (Nat.not_lt.2 h)

/-- The visits in front of the first one that fails are those that do not fail. -/
theorem Visit.takeWhile_append_failure {before : List Visit} {v : Visit} {e : SourceError}
    (hbefore : ∀ w ∈ before, w.error? = none) (hv : v.error? = some e) (after : List Visit) :
    (before ++ v :: after).takeWhile (·.error?.isNone) = before := by
  rw [List.takeWhile_append_of_pos fun w hw => by rw [hbefore w hw]; rfl,
    List.takeWhile_cons_of_neg (by rw [hv]; exact Bool.false_ne_true), List.append_nil]

section Files

variable (files : Text → Option Text)

/-- The include lines that a line leads to: itself, if it is one, and those of its file. -/
def lineVisits (depth : Nat) (enter : Text → List Visit) (line : Text) : List Visit :=
  match includeLine? line with
  | none => []
  | some (optional, path) => ⟨depth, optional, path, files path⟩ :: (files path).elim [] enter

/-- The include lines that a text leads to, if includes are nested at most `n` deep counting the
text itself. -/
def visitsWithin : Nat → Text → List Visit
  | 0, _ => []
  | n + 1, s => (Text.lines s).flatMap (lineVisits files (maxIncludeDepth + 1 - n) (visitsWithin n))

/-- The include lines that a text leads to, in the order in which they are read. -/
def visits (s : Text) : List Visit := visitsWithin files (maxIncludeDepth + 1) s

/-- Lines stand for a text: include lines for what the lines of their files stand for, or for
nothing if there is no file, and all other lines for themselves. -/
inductive Expands : List Text → Text → Prop
  | done : Expands [] []
  | kept {line : Text} {lines : List Text} {u : Text} (hline : includeLine? line = none)
      (hlines : Expands lines u) :
    Expands (line :: lines) (line ++ '\n' :: u)
  | skipped {line path : Text} {lines : List Text} {u : Text}
      (hline : includeLine? line = some (true, path)) (hpath : files path = none)
      (hlines : Expands lines u) : Expands (line :: lines) u
  | entered {line path contents : Text} {optional : Bool} {lines : List Text} {t u : Text}
      (hline : includeLine? line = some (optional, path)) (hpath : files path = some contents)
      (hcontents : Expands (Text.lines contents) t) (hlines : Expands lines u) :
      Expands (line :: lines) (t ++ u)

/-- Resolves paths by a function, and notes which ones have been asked for. -/
def ask (path : Text) : StateM (List Text) (Option Text) :=
  fun asked => (files path, asked ++ [path])

/-- What comes of a text. -/
def result (s : Text) : Except SourceError Text := (expandIncludes (ask files) s []).1

/-- The paths that are asked for, one after the other. -/
def asked (s : Text) : List Text := (expandIncludes (ask files) s []).2

end Files

variable {files : Text → Option Text}

namespace Expands

/-- Lines stand for one text only. -/
theorem unique {lines : List Text} {u u' : Text} (h : Expands files lines u)
    (h' : Expands files lines u') :
    u = u' := by
  -- a line decides by itself which of the three cases it is, so both have the same one
  induction h generalizing u' with
  | done => cases h'; rfl
  | kept hline _ ih =>
    cases h' with
    | kept _ hlines => rw [ih hlines]
    | skipped hline' => cases hline.symm.trans hline'
    | entered hline' => cases hline.symm.trans hline'
  | skipped hline hpath _ ih =>
    cases h' with
    | kept hline' => cases hline.symm.trans hline'
    | skipped _ _ hlines => exact ih hlines
    | entered hline' hpath' =>
      cases hline.symm.trans hline'
      cases hpath.symm.trans hpath'
  | entered hline hpath _ _ ihcontents ih =>
    cases h' with
    | kept hline' => cases hline.symm.trans hline'
    | skipped hline' hpath' =>
      cases hline.symm.trans hline'
      cases hpath.symm.trans hpath'
    | entered hline' hpath' hcontents hlines =>
      cases hline.symm.trans hline'
      cases hpath.symm.trans hpath'
      rw [ihcontents hcontents, ih hlines]

/-- The text is put together from lines that are no include lines. -/
theorem exists_ofLines {lines : List Text} {u : Text} (h : Expands files lines u)
    (hlines : ∀ l ∈ lines, '\n' ∉ l) :
    ∃ kept, u = Text.ofLines kept ∧ ∀ l ∈ kept, '\n' ∉ l ∧ includeLine? l = none := by
  induction h with
  | done => exact ⟨[], rfl, by simp⟩
  | @kept line lines u hline _ ih =>
    obtain ⟨hfirst, hrest⟩ := List.forall_mem_cons.1 hlines
    obtain ⟨kept, rfl, hkept⟩ := ih hrest
    exact ⟨line :: kept, by simp, List.forall_mem_cons.2 ⟨⟨hfirst, hline⟩, hkept⟩⟩
  | skipped _ _ _ ih => exact ih (List.forall_mem_cons.1 hlines).2
  | entered _ _ _ _ ihcontents ih =>
    obtain ⟨kept, rfl, hkept⟩ := ihcontents fun _ => Text.not_mem_of_mem_lines
    obtain ⟨kept', rfl, hkept'⟩ := ih (List.forall_mem_cons.1 hlines).2
    exact ⟨kept ++ kept', by simp, fun l hl => (List.mem_append.1 hl).elim (hkept l) (hkept' l)⟩

/-- **No include line survives.** -/
theorem includeLine?_eq_none {s u : Text} (h : Expands files (Text.lines s) u) :
    ∀ line ∈ Text.lines u, includeLine? line = none := by
  obtain ⟨kept, rfl, hkept⟩ := h.exists_ofLines fun _ => Text.not_mem_of_mem_lines
  rw [Text.lines_ofLines fun l hl => (hkept l hl).1]
  intro line hline
  obtain ⟨l, hl, rfl⟩ := List.mem_map.1 hline
  exact (includeLine?_dropReturn l).trans (hkept l hl).2

end Expands

/-! ### What comes of the visits -/

/-- What follows from visits of include lines, and the paths that are asked for meanwhile: either
none of them fails and there is a text, or the first one that fails decides the error and is the
last one to be asked for. -/
inductive Follows (Stands : Text → Prop) : List Visit → Except SourceError Text → List Text → Prop
  | replaced {vs : List Visit} {u : Text} (hvs : ∀ v ∈ vs, v.error? = none) (hu : Stands u) :
    Follows Stands vs (.ok u) (vs.map Visit.path)
  | failed {before after : List Visit} {v : Visit} {e : SourceError}
      (hbefore : ∀ w ∈ before, w.error? = none) (hv : v.error? = some e) :
      Follows Stands (before ++ v :: after) (.error e) ((before ++ [v]).map Visit.path)

namespace Follows

variable {Stands Stands' : Text → Prop} {vs vs' : List Visit} {r : Except SourceError Text}
    {paths paths' : List Text}

theorem failed_first {v : Visit} {e : SourceError} (hv : v.error? = some e) (after : List Visit) :
    Follows Stands (v :: after) (.error e) [v.path] :=
  @failed Stands [] after v e (by simp) hv

/-- If what a text stands for carries over to a changed text, the changed result follows the visits
as well. -/
theorem map {f : Text → Text} (hf : ∀ u, Stands u → Stands' (f u)) (h : Follows Stands vs r paths) :
    Follows Stands' vs (r.map f) paths := by
  cases h with
  | replaced hvs hu => exact .replaced hvs (hf _ hu)
  | failed hbefore hv => exact .failed hbefore hv

theorem mono (hsub : ∀ u, Stands u → Stands' u) (h : Follows Stands vs r paths) :
    Follows Stands' vs r paths := by
  cases h with
  | replaced hvs hu => exact .replaced hvs (hsub _ hu)
  | failed hbefore hv => exact .failed hbefore hv

/-- With a text as the result, no visit has failed. -/
theorem of_ok {u : Text} (h : Follows Stands vs (.ok u) paths) :
    (∀ v ∈ vs, v.error? = none) ∧ Stands u := by
  cases h with
  | replaced hvs hu => exact ⟨hvs, hu⟩

theorem of_error {e : SourceError} (h : Follows Stands vs (.error e) paths) :
    ∃ before v after, vs = before ++ v :: after ∧ (∀ w ∈ before, w.error? = none) ∧
      v.error? = some e := by
  cases h with
  | failed hbefore hv => exact ⟨_, _, _, rfl, hbefore, hv⟩

/-- If no visit fails, there is a text, and all paths have been asked for. -/
theorem of_none (h : Follows Stands vs r paths) (hvs : ∀ v ∈ vs, v.error? = none) :
    (∃ u, r = .ok u ∧ Stands u) ∧ paths = vs.map Visit.path := by
  cases h with
  | replaced _ hu => exact ⟨⟨_, rfl, hu⟩, rfl⟩
  | @failed before after v e _ hv => simp [hvs v (by simp)] at hv

/-- The first visit that fails decides the result, and is the last one that is asked for. -/
theorem of_failure {before after : List Visit} {v : Visit} {e : SourceError}
    (h : Follows Stands (before ++ v :: after) r paths) (hbefore : ∀ w ∈ before, w.error? = none)
    (hv : v.error? = some e) : r = .error e ∧ paths = (before ++ [v]).map Visit.path := by
  generalize hvs : before ++ v :: after = vs at h
  cases h with
  | replaced hnone _ => simp [hnone v (by simp [← hvs])] at hv
  | failed hbefore' hv' =>
    -- both are what stands in front of the first visit that fails
    have hsame := Visit.takeWhile_append_failure hbefore hv after
    rw [hvs, Visit.takeWhile_append_failure hbefore' hv'] at hsame
    obtain rfl := hsame
    obtain ⟨rfl, -⟩ := List.cons.inj (List.append_cancel_left hvs)
    rw [hv] at hv'
    obtain rfl := Option.some.inj hv'
    exact ⟨rfl, rfl⟩

/-- Where visits stand for one text at most, it is the result exactly if none of them fails. -/
theorem ok_iff {u : Text} (hunique : ∀ u', Stands u' → Stands u → u' = u)
    (h : Follows Stands vs r paths) :
    r = .ok u ↔ (∀ v ∈ vs, v.error? = none) ∧ Stands u := by
  constructor
  · rintro rfl
    exact h.of_ok
  · rintro ⟨hvs, hu⟩
    obtain ⟨⟨u', hr, hu'⟩, -⟩ := h.of_none hvs
    rw [hr, hunique u' hu' hu]

/-- The result is an error exactly if it is that of the first visit that fails. -/
theorem error_iff {e : SourceError} (h : Follows Stands vs r paths) :
    r = .error e ↔ ∃ before v after, vs = before ++ v :: after ∧ (∀ w ∈ before, w.error? = none) ∧
      v.error? = some e := by
  constructor
  · rintro rfl
    exact h.of_error
  · rintro ⟨before, v, after, rfl, hbefore, hv⟩
    exact (h.of_failure hbefore hv).1

/-- A visit that does not fail changes nothing but that its path has been asked for. -/
theorem cons {v : Visit} (hv : v.error? = none) (h : Follows Stands vs r paths) :
    Follows Stands (v :: vs) r (v.path :: paths) := by
  cases h with
  | replaced hvs hu => exact .replaced (List.forall_mem_cons.2 ⟨hv, hvs⟩) hu
  | failed hbefore hfails => exact .failed (List.forall_mem_cons.2 ⟨hv, hbefore⟩) hfails

/-- A failure is not undone by what would come next. -/
theorem append_error {e : SourceError} (h : Follows Stands vs (.error e) paths) (vs' : List Visit) :
    Follows Stands' (vs ++ vs') (.error e) paths := by
  cases h with
  | failed hbefore hv =>
    rw [List.append_assoc, List.cons_append]
    exact .failed hbefore hv

/-- Behind visits that do not fail, the next ones decide. -/
theorem append {t : Text} (h : Follows Stands vs (.ok t) paths)
    (h' : Follows Stands' vs' r paths') :
    Follows Stands' (vs ++ vs') r (paths ++ paths') := by
  cases h with
  | replaced hvs _ =>
    cases h' with
    | replaced hvs' hu =>
      rw [← List.map_append]
      exact .replaced (fun v hv => (List.mem_append.1 hv).elim (hvs v) (hvs' v)) hu
    | failed hbefore hv =>
      rw [← List.append_assoc, ← List.map_append, ← List.append_assoc]
      exact .failed (fun w hw => (List.mem_append.1 hw).elim (hvs w) (hbefore w)) hv

end Follows

/-! ### The run -/

section Lines

variable {depth : Nat} {enter : Text → List Visit} {line path contents : Text} {optional : Bool}

theorem lineVisits_of_kept (hline : includeLine? line = none) :
    lineVisits files depth enter line = [] := by
  rw [lineVisits, hline]

/-- An include line without a file asks for its path only. -/
theorem lineVisits_of_missing (hline : includeLine? line = some (optional, path))
    (hpath : files path = none) :
    lineVisits files depth enter line = [⟨depth, optional, path, none⟩] := by
  rw [lineVisits, hline]
  simp [hpath]

/-- An include line with a file asks for its path, and then for what the file asks for. -/
theorem lineVisits_of_found (hline : includeLine? line = some (optional, path))
    (hpath : files path = some contents) :
    lineVisits files depth enter line =
      ⟨depth, optional, path, some contents⟩ :: enter contents := by
  rw [lineVisits, hline]
  simp [hpath]

variable {inside : Text → StateM (List Text) (Except SourceError Text)} {asked : List Text}

/-- A line that is no include line is kept, and the lines behind it are expanded. -/
theorem expandLines_kept (hline : includeLine? line = none) (lines : List Text) :
    expandLines (ask files) inside (line :: lines) asked =
      (expandLines (ask files) inside lines asked).map (·.map (line ++ '\n' :: ·)) id := by
  rw [expandLines, hline]
  rfl

/-- Without a file, an optional include is left out, and any other one fails. -/
theorem expandLines_missing (hline : includeLine? line = some (optional, path))
    (hpath : files path = none) (lines : List Text) :
    expandLines (ask files) inside (line :: lines) asked =
      if optional then expandLines (ask files) inside lines (asked ++ [path])
      else (.error (.missingInclude path), asked ++ [path]) := by
  rw [expandLines, hline]
  simp only [bind, StateT.bind, ask, hpath]
  cases optional <;> rfl

/-- With a file, what the file expands to is put in the place of the include line. -/
theorem expandLines_found (hline : includeLine? line = some (optional, path))
    (hpath : files path = some contents) (lines : List Text) :
    expandLines (ask files) inside (line :: lines) asked =
      match inside contents (asked ++ [path]) with
      | (.error e, asked) => (.error e, asked)
      | (.ok t, asked) => (expandLines (ask files) inside lines asked).map (·.map (t ++ ·)) id := by
  rw [expandLines, hline]
  simp only [bind, StateT.bind, ask, hpath]
  cases inside contents (asked ++ [path]) with
  | mk r asked => cases r <;> rfl

end Lines

/-- The lines of a text are followed if the files that they enter are. -/
theorem follows_expandLines {n depth : Nat} {enter : Text → List Visit}
    (henter : ∀ {path contents : Text} (optional : Bool) (asked : List Text),
      files path = some contents →
      ∃ r paths, expandWithin (ask files) n contents (asked ++ [path]) = (r, asked ++ paths) ∧
        Follows (Expands files (Text.lines contents))
        (⟨depth, optional, path, some contents⟩ :: enter contents) r
          paths)
    (lines : List Text) (asked : List Text) :
    ∃ r paths,
      expandLines (ask files) (expandWithin (ask files) n) lines asked = (r, asked ++ paths) ∧
      Follows (Expands files lines) (lines.flatMap (lineVisits files depth enter)) r paths := by
  induction lines generalizing asked with
  | nil => exact ⟨.ok [], [], by rw [List.append_nil]; rfl, .replaced (by simp) .done⟩
  | cons line lines ih =>
    rw [List.flatMap_cons]
    cases hline : includeLine? line with
    | none =>
      obtain ⟨r, paths, hrun, hfollows⟩ := ih asked
      rw [lineVisits_of_kept hline, expandLines_kept hline, hrun]
      exact ⟨_, paths, rfl, hfollows.map fun u hu => .kept hline hu⟩
    | some found =>
      obtain ⟨optional, path⟩ := found
      cases hpath : files path with
      | none =>
        rw [lineVisits_of_missing hline hpath, expandLines_missing hline hpath]
        cases optional with
        | false => exact ⟨_, [path], rfl, .failed_first rfl _⟩
        | true =>
          obtain ⟨r, paths, hrun, hfollows⟩ := ih (asked ++ [path])
          exact ⟨r, path :: paths, by rw [if_pos rfl, hrun, List.append_cons asked path paths],
            (hfollows.mono fun u hu => .skipped hline hpath hu).cons rfl⟩
      | some contents =>
        -- what the file leads to comes before the lines that are left, and may already fail
        obtain ⟨r, paths, hrun, hfollows⟩ := henter optional asked hpath
        rw [lineVisits_of_found hline hpath, expandLines_found hline hpath, hrun]
        cases r with
        | error e => exact ⟨_, paths, rfl, hfollows.append_error _⟩
        | ok t =>
          obtain ⟨r, paths', hrun', hfollows'⟩ := ih (asked ++ paths)
          have ht := hfollows.of_ok.2
          simp only [hrun', List.append_assoc]
          exact ⟨_, paths ++ paths', rfl,
            hfollows.append (hfollows'.map fun u hu => .entered hline hpath ht hu)⟩

/-- **A text is followed**, whatever its files include. -/
theorem follows_expandWithin (files : Text → Option Text) (n : Nat) (s : Text) (asked : List Text) :
    ∃ r paths, expandWithin (ask files) (n + 1) s asked = (r, asked ++ paths) ∧
      Follows (Expands files (Text.lines s)) (visitsWithin files (n + 1) s) r paths := by
  induction n generalizing s asked with
  | zero =>
    -- no file can be entered
    refine follows_expandLines
      (fun {path contents} optional asked hpath => ⟨_, [path], rfl, ?_⟩) _ asked
    exact .failed_first rfl _
  | succ n ih =>
    refine follows_expandLines (fun {path contents} optional asked hpath => ?_) _ asked
    -- a file that is entered here is not nested too deep, so that it is its own include lines that
    -- may fail
    obtain ⟨r, paths, hrun, hfollows⟩ := ih contents (asked ++ [path])
    have hshallow : maxIncludeDepth + 1 - (n + 1) ≤ 16 := by simp [maxIncludeDepth]
    exact ⟨r, path :: paths, by rw [hrun, List.append_cons asked path paths],
      hfollows.cons (Visit.error?_of_found hshallow)⟩

/-! ### Texts -/

/-- **What comes of a text** with include lines. -/
structure PutInPlace (files : Text → Option Text) (s : Text) : Prop where
  /-- An include line has a keyword and a path. -/
  includeLine_iff : ∀ line optional path,
    includeLine? line = some (optional, path) ↔ IsIncludeLine line optional path
  /-- There is a text exactly if no include line fails. -/
  succeeds_iff : (∃ u, result files s = .ok u) ↔ ∀ v ∈ visits files s, v.error? = none
  /-- It is the text then that the lines stand for. -/
  ok_iff : ∀ u, result files s = .ok u ↔
    (∀ v ∈ visits files s, v.error? = none) ∧ Expands files (Text.lines s) u
  /-- The error is that of the first include line that fails. -/
  error_iff : ∀ e, result files s = .error e ↔
    ∃ before v after, visits files s = before ++ v :: after ∧
    (∀ w ∈ before, w.error? = none) ∧ v.error? = some e
  /-- Without an error, every include line has been asked for once, in order. -/
  asked_of_ok :
    (∀ v ∈ visits files s, v.error? = none) → asked files s = (visits files s).map Visit.path
  /-- Otherwise this is so up to the one that fails. -/
  asked_of_error : ∀ before v after, visits files s = before ++ v :: after →
    (∀ w ∈ before, w.error? = none) →
    v.error? ≠ none → asked files s = (before ++ [v]).map Visit.path
  /-- There are no include lines left. -/
  free : ∀ u, result files s = .ok u → ∀ line ∈ Text.lines u, includeLine? line = none
  /-- So putting includes in place once more asks for nothing, whatever a resolver does. -/
  settled : ∀ u, result files s = .ok u → ∀ (m : Type → Type) [Monad m] [LawfulMonad m]
    (resolve : Text → m (Option Text)),
      expandIncludes resolve u = pure (.ok (Text.ofLines (Text.lines u)))

/-- Expanding a text follows the visits that the text asks for. -/
theorem follows_expandIncludes (files : Text → Option Text) (s : Text) :
    Follows (Expands files (Text.lines s)) (visits files s) (result files s) (asked files s) := by
  obtain ⟨r, paths, hrun, hfollows⟩ := follows_expandWithin files maxIncludeDepth s []
  have hboth : expandIncludes (ask files) s [] = (r, paths) := hrun
  rw [result, asked, hboth]
  exact hfollows

/-- Lines that are no include lines are kept, and a resolver is not asked for them. -/
theorem expandLines_append {m : Type → Type} [Monad m] [LawfulMonad m]
    (resolve : Text → m (Option Text)) (enter : Text → m (Except SourceError Text))
    {kept : List Text} (h : ∀ line ∈ kept, includeLine? line = none) (lines : List Text) :
    expandLines resolve enter (kept ++ lines) =
      (·.map (Text.ofLines kept ++ ·)) <$> expandLines resolve enter lines := by
  induction kept with
  | nil =>
    have hid : (Except.map (Text.ofLines [] ++ ·) : Except SourceError Text → _) = id := by
      funext r
      cases r <;> rfl
    rw [List.nil_append, hid, id_map]
  | cons line kept ih =>
    obtain ⟨hline, hkept⟩ := List.forall_mem_cons.1 h
    rw [List.cons_append, expandLines, hline]
    simp only [ih hkept, map_eq_pure_bind, bind_assoc, pure_bind]
    -- the lines are kept in front of the result, whatever the other lines come to
    refine bind_congr fun r => ?_
    cases r <;> simp [Except.map]

/-- Lines of which none is an include line stay as they are. -/
theorem expandLines_of_none {m : Type → Type} [Monad m] [LawfulMonad m]
    (resolve : Text → m (Option Text)) (enter : Text → m (Except SourceError Text))
    {lines : List Text} (h : ∀ line ∈ lines, includeLine? line = none) :
    expandLines resolve enter lines = pure (.ok (Text.ofLines lines)) := by
  have hkept := expandLines_append resolve enter h []
  rw [List.append_nil] at hkept
  rw [hkept]
  simp [expandLines, Except.map]

/-- **Includes are put in place**, whatever a text includes and whatever its files include. -/
theorem putInPlace (files : Text → Option Text) (s : Text) : PutInPlace files s := by
  -- all is told by the visits, since what the text expands to is unique
  have hfollows := follows_expandIncludes files s
  have hok : ∀ u, result files s = .ok u ↔
      (∀ v ∈ visits files s, v.error? = none) ∧ Expands files (Text.lines s) u :=
    fun u => hfollows.ok_iff fun u' h' h => h'.unique h
  have hfree : ∀ u, result files s = .ok u → ∀ line ∈ Text.lines u, includeLine? line = none :=
    fun u hu => ((hok u).1 hu).2.includeLine?_eq_none
  exact
    { includeLine_iff := fun _ _ _ => includeLine?_eq_some_iff
      succeeds_iff :=
        ⟨fun ⟨u, hu⟩ => ((hok u).1 hu).1, fun hvs => (hfollows.of_none hvs).1.imp fun _ h => h.1⟩
      ok_iff := hok
      error_iff := fun e => hfollows.error_iff
      asked_of_ok := fun hvs => (hfollows.of_none hvs).2
      asked_of_error := fun before v after hvisits hbefore hv => by
        obtain ⟨e, he⟩ := Option.ne_none_iff_exists'.1 hv
        rw [hvisits] at hfollows
        exact (hfollows.of_failure hbefore he).2
      free := hfree
      settled := fun u hu m _ _ resolve => expandLines_of_none resolve _ (hfree u hu) }

/-- A file with an include line of its own is put in place, and an optional one that is missing is
left out. One that must be there is the error if it is missing, and what stands behind it is not
asked for. -/
theorem putInPlace_files :
    ∃ files : Text → Option Text,
      PutInPlace files "Include a\n includeoptional c \n4".toList ∧
      result files "Include a\n includeoptional c \n4".toList = .ok "1\n3\n2\n4\n".toList ∧
      asked files "Include a\n includeoptional c \n4".toList =
        ["a".toList, "b".toList, "c".toList] ∧
      PutInPlace files "Include b\nInclude c\nInclude a".toList ∧
      result files "Include b\nInclude c\nInclude a".toList = .error (.missingInclude "c".toList) ∧
      asked files "Include b\nInclude c\nInclude a".toList = ["b".toList, "c".toList] := by
  refine ⟨fun path =>
    [("a".toList, "1\nInclude b\n2".toList), ("b".toList, "3".toList)].lookup path,
    putInPlace _ _, eq_ok_of_toOption (by decide +kernel), by decide +kernel, putInPlace _ _, ?_,
    by decide +kernel⟩
  -- the second include line is the first one to fail
  exact ((putInPlace _ _).error_iff _).2 ⟨[⟨1, false, "b".toList, some "3".toList⟩],
    ⟨1, false, "c".toList, none⟩, [⟨1, false, "a".toList, some "1\nInclude b\n2".toList⟩,
      ⟨2, false, "b".toList, some "3".toList⟩], by decide +kernel, by simp [Visit.error?], rfl⟩

/-- A file that includes itself is asked for until it is nested too deep. -/
example :
    asked (fun _ => some "Include a".toList) "Include a".toList = List.replicate 17 "a".toList := by
  decide +kernel

end Source

end UrlRewrite
