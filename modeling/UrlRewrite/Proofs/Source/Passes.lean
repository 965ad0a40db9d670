import UrlRewrite.Proofs.Source.Continuation
import UrlRewrite.Proofs.Source.Include

/-!
# The two passes over a source

A source is read in two passes: first includes are put in place, and then continued lines are
joined. It is a line as it is written that is an include line or not, whatever it continues and
wherever it goes on. Would the passes come to the same the other way round, if the files that are
included were joined as well (`Source.joinedFiles`)?

They would not, for an include line may go on in the next line, or be what another line goes on in
(`Source.not_passes_commute`). But they do where includes and continued lines keep apart
(`Source.KeepsApart`), in the text and in all that it includes (`Source.texts`): then both orders
have the same result, be it a text or an error, and ask for the same paths
(`Source.passes_commute`).

What carries the proof is that what has been expanded so far joins to what the other order has come
to, whatever follows it (`Source.JoinsTo`). It holds of the empty text, and of texts one behind the
other. So what is left is one stretch of lines (`Stretch.joinsTo`). In either order lines are read
twice, and may lose a carriage return each time: if they are joined last, each line of the stretch
loses both, and if they are joined first, it is the line that they come to that loses the second
one.
-/

namespace UrlRewrite

namespace Source

/-! ### Texts that join -/

/-- `s` joins to `u`, whatever follows it. -/
def JoinsTo (s u : Text) : Prop :=
  ∀ rest, joinContinued (s ++ rest) = (joinContinued rest).map (u ++ ·)

namespace JoinsTo

variable {s s' u u' : Text}

theorem nil : JoinsTo [] [] := fun rest => by
  cases h : joinContinued rest <;> simp [h, Except.map]

/-- Texts that are joined can be put one behind the other before or after. -/
theorem append (h : JoinsTo s u) (h' : JoinsTo s' u') : JoinsTo (s ++ s') (u ++ u') :=
  fun rest => by
  rw [List.append_assoc, h, h']
  cases joinContinued rest <;> simp [Except.map]

/-- What a text is joined to is the result of joining it. -/
theorem joinContinued_eq (h : JoinsTo s u) : joinContinued s = .ok u := by
  have hnil := h []
  rwa [List.append_nil, show joinContinued [] = .ok [] from rfl, Except.map,
    List.append_nil] at hnil

end JoinsTo

/-! ### Stretches -/

/-- It does not matter to a mark of continuation whether a carriage return follows. -/
theorem isContinued_dropReturn_iff {line : Text} :
    IsContinued (Text.dropReturn line) ↔ IsContinued line := by
  rw [IsContinued, IsContinued, Text.trimEnd_dropReturn]

theorem unmarked_dropReturn (line : Text) : unmarked (Text.dropReturn line) = unmarked line := by
  rw [unmarked, unmarked, Text.trimEnd_dropReturn]

namespace Stretch

variable (t : Stretch)

/-- **A stretch apart from includes.** -/
structure IsApart : Prop where
  /-- None of its lines is an include line by itself, -/
  lines : ∀ line ∈ t.lines, includeLine? line = none
  /-- nor is the line that they come to. -/
  joined : includeLine? t.joined = none
  /-- If the last line is blank, what they come to does not end with a carriage return: it would be
  at the end of a line then, where it has not been written. -/
  ending : Text.trimStart t.closing = [] → t.joined.getLast? ≠ some '\r'

/-- The stretch with the carriage returns dropped that its lines end with. -/
def dropReturns : Stretch where
  run := t.run.map Text.dropReturn
  closing := Text.dropReturn t.closing
  run_continued := by
    intro line hline
    obtain ⟨raw, hraw, rfl⟩ := List.mem_map.1 hline
    exact isContinued_dropReturn_iff.2 (t.run_continued raw hraw)
  closing_ends := fun h => t.closing_ends (isContinued_dropReturn_iff.1 h)

theorem lines_dropReturns : t.dropReturns.lines = t.lines.map Text.dropReturn := by
  simp [lines, dropReturns]

variable {t}

/-- Whether carriage returns are dropped before or behind the joining makes no difference. -/
theorem joined_dropReturns (h : t.run ≠ [] → t.IsApart) :
    t.dropReturns.joined = Text.dropReturn t.joined := by
  obtain ⟨run, closing, hrun, hclosing⟩ := t
  cases run with
  | nil => simp [joined, pieces, dropReturns, glue]
  | cons first run =>
    have hending := (h (by simp)).ending
    have hpieces : (run.map Text.dropReturn).map unmarked = run.map unmarked := by
      rw [List.map_map]
      exact List.map_congr_left fun line _ => unmarked_dropReturn line
    -- of the pieces, the last one alone has the end of its line
    simp only [joined, pieces, dropReturns, List.map_cons, List.cons_append, glue, hpieces,
      unmarked_dropReturn, List.flatMap_append, List.flatMap_singleton, Text.trimStart_dropReturn,
      ← List.append_assoc] at hending ⊢
    by_cases hblank : Text.trimStart closing = []
    · rw [hblank, List.append_nil] at hending ⊢
      rw [Text.dropReturn_eq fun c hc heq => hending rfl (heq ▸ hc)]
      exact List.append_nil _
    · rw [Text.dropReturn_append hblank]

/-- A stretch joins to the line that it comes to, whatever follows it. -/
theorem joinsTo (hfeed : ∀ line ∈ t.lines, '\n' ∉ line) (h : t.run ≠ [] → t.IsApart) :
    JoinsTo (Text.ofLines t.lines) (Text.ofLines [Text.dropReturn t.joined]) := by
  intro rest
  rw [joinContinued, Text.lines_ofLines_append hfeed, ← t.lines_dropReturns, joinLines_append,
    joined_dropReturns h, joinContinued]
  simp [Text.ofLines]

/-- Either a stretch has nothing to do with includes, or it is a single include line. -/
theorem kept_or_include (h : t.run ≠ [] → t.IsApart) :
    ((∀ line ∈ t.lines, includeLine? line = none) ∧ includeLine? t.joined = none) ∨
      ∃ line optional path,
        t.lines = [line] ∧ t.joined = line ∧ includeLine? line = some (optional, path) := by
  by_cases hrun : t.run = []
  · have hlines : t.lines = [t.closing] := by rw [lines, hrun, List.nil_append]
    have hjoined : t.joined = t.closing := by
      rw [joined, pieces, hrun]
      exact List.append_nil _
    cases hclosing : includeLine? t.closing with
    | none => exact .inl ⟨by simp [hlines, hclosing], by rw [hjoined, hclosing]⟩
    | some found => exact .inr ⟨t.closing, found.1, found.2, hlines, hjoined, hclosing⟩
  · exact .inl ⟨(h hrun).lines, (h hrun).joined⟩

end Stretch

/-- **A text that keeps includes apart** from continued lines: it falls into stretches, so that it
can be joined, and those of several lines are apart from includes. -/
def KeepsApart (s : Text) : Prop :=
  ∃ ts : List Stretch, Text.lines s = ts.flatMap Stretch.lines ∧ ∀ t ∈ ts, t.run ≠ [] → t.IsApart

/-! ### Both orders -/

/-- Results of both orders: a text and one that it joins to, or the same error. -/
inductive JoinsAs : Except SourceError Text → Except SourceError Text → Prop
  | text {s u : Text} (h : JoinsTo s u) : JoinsAs (.ok s) (.ok u)
  | failure (e : SourceError) : JoinsAs (.error e) (.error e)

namespace JoinsAs

variable {r r' : Except SourceError Text}

/-- Results that correspond do so behind texts that are joined. -/
theorem prepend {s u : Text} (hfront : JoinsTo s u) (h : JoinsAs r r') :
    JoinsAs (r.map (s ++ ·)) (r'.map (u ++ ·)) := by
  cases h with
  | text h => exact .text (hfront.append h)
  | failure e => exact .failure e

/-- Joining a result gives the one that corresponds. -/
theorem bind_eq (h : JoinsAs r r') : r.bind joinContinued = r' := by
  cases h with
  | text h => exact h.joinContinued_eq
  | failure e => rfl

end JoinsAs

/-- Two runs ask for the same paths, and the result of the first one joins to that of the second
one. -/
def RunsAs (m m' : StateM (List Text) (Except SourceError Text)) : Prop :=
  ∀ asked, JoinsAs (m asked).1 (m' asked).1 ∧ (m asked).2 = (m' asked).2

section Files

variable (files : Text → Option Text)

/-- The files with continued lines joined. -/
def joinedFiles (path : Text) : Option Text :=
  (files path).bind fun contents => (joinContinued contents).toOption

/-- A text and all that it includes, nested at most `n` deep counting the text itself. -/
def textsWithin (n : Nat) (s : Text) : List Text :=
  s :: (visitsWithin files n s).filterMap Visit.contents

/-- A text and all that it includes. -/
def texts (s : Text) : List Text := textsWithin files (maxIncludeDepth + 1) s

end Files

variable {files : Text → Option Text} {line path contents : Text} {optional : Bool}

/-- A file that can be joined is found joined. -/
theorem joinedFiles_of_joined {j : Text} (hpath : files path = some contents)
    (hj : joinContinued contents = .ok j) :
    joinedFiles files path = some j := by
  rw [joinedFiles, hpath, Option.bind_some, hj]
  rfl

/-- What an included file includes is included. -/
theorem textsWithin_subset {n : Nat} {s : Text} (hmem : line ∈ Text.lines s)
    (hline : includeLine? line = some (optional, path)) (hpath : files path = some contents) :
    textsWithin files n contents ⊆ textsWithin files (n + 1) s := by
  have hvisits : lineVisits files (maxIncludeDepth + 1 - n) (visitsWithin files n) line ⊆
      visitsWithin files (n + 1) s := fun v hv => List.mem_flatMap.2 ⟨line, hmem, hv⟩
  rw [lineVisits_of_found hline hpath] at hvisits
  intro c hc
  exact List.mem_cons_of_mem s (List.filterMap_subset Visit.contents hvisits hc)

section Lines

variable {inside inside' : Text → StateM (List Text) (Except SourceError Text)}

namespace RunsAs

variable {line' : Text} {lines lines' : List Text}
  (hrest : RunsAs (expandLines (ask files) inside lines)
    (expandLines (ask (joinedFiles files)) inside' lines'))
  (hline : includeLine? line = some (optional, path))
  (hline' : includeLine? line' = some (optional, path))

include hrest hline hline'

/-- A file that is missing is missed by both runs. -/
theorem missing (hpath : files path = none) :
    RunsAs (expandLines (ask files) inside (line :: lines))
      (expandLines (ask (joinedFiles files)) inside' (line' :: lines')) := by
  intro asked
  have hpath' : joinedFiles files path = none := by rw [joinedFiles, hpath, Option.bind_none]
  rw [expandLines_missing hline hpath, expandLines_missing hline' hpath']
  cases optional with
  | false => exact ⟨.failure _, rfl⟩
  | true => exact hrest (asked ++ [path])

/-- A file that is there is entered by both runs, and they go on behind it. -/
theorem found {j : Text} (hpath : files path = some contents) (hj : joinContinued contents = .ok j)
    (hinside : RunsAs (inside contents) (inside' j)) :
    RunsAs (expandLines (ask files) inside (line :: lines))
      (expandLines (ask (joinedFiles files)) inside' (line' :: lines')) := by
  intro asked
  rw [expandLines_found hline hpath, expandLines_found hline' (joinedFiles_of_joined hpath hj)]
  obtain ⟨hresult, hasked⟩ := hinside (asked ++ [path])
  generalize inside contents (asked ++ [path]) = m at hresult hasked ⊢
  generalize inside' j (asked ++ [path]) = m' at hresult hasked ⊢
  obtain ⟨r, asked⟩ := m
  obtain ⟨r', asked'⟩ := m'
  obtain rfl : asked = asked' := hasked
  cases hresult with
  | failure e => exact ⟨.failure e, rfl⟩
  | text h =>
    obtain ⟨hresult, hasked⟩ := hrest asked
    exact ⟨hresult.prepend h, hasked⟩

end RunsAs

/-- Stretches are expanded and joined as the lines that they come to are expanded, if the files that
they enter are. -/
theorem runsAs_expandLines {ts : List Stretch}
    (hfeed : ∀ line ∈ ts.flatMap Stretch.lines, '\n' ∉ line)
    (hapart : ∀ t ∈ ts, t.run ≠ [] → t.IsApart)
    (henter : ∀ line ∈ ts.flatMap Stretch.lines, ∀ optional path contents,
      includeLine? line = some (optional, path) → files path = some contents →
        ∃ j, joinContinued contents = .ok j ∧ RunsAs (inside contents) (inside' j)) :
    RunsAs (expandLines (ask files) inside (ts.flatMap Stretch.lines))
      (expandLines (ask (joinedFiles files)) inside' (ts.map fun t =>
        Text.dropReturn t.joined)) := by
  induction ts with
  | nil => exact fun asked => ⟨.text .nil, rfl⟩
  | cons t ts ih =>
    obtain ⟨ht, hts⟩ := List.forall_mem_cons.1 hapart
    rw [List.flatMap_cons] at hfeed henter ⊢
    obtain ⟨hfeed, hfeeds⟩ := List.forall_mem_append.1 hfeed
    obtain ⟨henter, henters⟩ := List.forall_mem_append.1 henter
    have hrest := ih hfeeds hts henters
    rw [List.map_cons]
    rcases t.kept_or_include ht with
      ⟨hlines, hjoined⟩ | ⟨line, optional, path, hlines, hjoined, hline⟩
    · -- here the lines are kept, and there the line that they come to
      have hkept : ∀ line ∈ [Text.dropReturn t.joined], includeLine? line = none := by
        simpa [includeLine?_dropReturn] using hjoined
      rw [expandLines_append _ _ hlines, ← List.singleton_append, expandLines_append _ _ hkept]
      intro asked
      obtain ⟨hresult, hasked⟩ := hrest asked
      exact ⟨hresult.prepend (t.joinsTo hfeed ht), hasked⟩
    · -- both ask for the path of the line, and then go on with the file
      have hline' : includeLine? (Text.dropReturn line) = some (optional, path) :=
        (includeLine?_dropReturn line).trans hline
      rw [hlines, List.singleton_append, hjoined]
      cases hpath : files path with
      | none => exact hrest.missing hline hline' hpath
      | some contents =>
        obtain ⟨j, hj, hinside⟩ := henter line (by simp [hlines]) optional path contents hline hpath
        exact hrest.found hline hline' hpath hj hinside

end Lines

/-- A text is expanded and joined as its joined text is expanded, however deep files may still be
nested. -/
theorem runsAs_expandWithin (n : Nat) {s j : Text}
    (hapart : ∀ c ∈ textsWithin files n s, KeepsApart c) (hj : joinContinued s = .ok j) :
    RunsAs (expandWithin (ask files) n s) (expandWithin (ask (joinedFiles files)) n j) := by
  induction n generalizing s j with
  | zero => exact fun asked => ⟨.failure _, rfl⟩
  | succ n ih =>
    obtain ⟨ts, hlines, hts⟩ := hapart s List.mem_cons_self
    have hfeed : ∀ line ∈ ts.flatMap Stretch.lines, '\n' ∉ line := by
      rw [← hlines]
      exact fun line => Text.not_mem_of_mem_lines
    -- the lines of the joined text are what the stretches come to
    obtain rfl := Except.ok.inj (hj.symm.trans (joinContinued_of_tiled hlines))
    have hfeed' : ∀ line ∈ ts.map Stretch.joined, '\n' ∉ line := by
      intro line hline
      obtain ⟨t, ht, rfl⟩ := List.mem_map.1 hline
      exact t.feed_not_mem_joined fun l hl => hfeed l (List.mem_flatMap.2 ⟨t, ht, hl⟩)
    have hlines' : Text.lines (Text.ofLines (ts.map Stretch.joined)) = ts.map fun t =>
      Text.dropReturn t.joined := by
      rw [Text.lines_ofLines hfeed', List.map_map]
      rfl
    rw [expandWithin, expandWithin, hlines, hlines']
    refine runsAs_expandLines hfeed hts fun line hmem optional path contents hline hpath => ?_
    rw [← hlines] at hmem
    have hinside : ∀ c ∈ textsWithin files n contents, KeepsApart c :=
      fun c hc => hapart c (textsWithin_subset hmem hline hpath hc)
    obtain ⟨inner, hinner, -⟩ := hinside contents List.mem_cons_self
    exact ⟨_, joinContinued_of_tiled hinner, ih hinside (joinContinued_of_tiled hinner)⟩

/-- **The passes commute**, if a text and all that it includes keep includes apart from continued
lines: to put includes in place and join the result comes to the same as to join first, the files as
well. -/
theorem passes_commute (files : Text → Option Text) (s : Text)
    (h : ∀ c ∈ texts files s, KeepsApart c) :
    ∃ j,
      joinContinued s = .ok j ∧ (result files s).bind joinContinued = result (joinedFiles files) j ∧
      asked files s = asked (joinedFiles files) j := by
  obtain ⟨ts, hlines, -⟩ := h s List.mem_cons_self
  have hj := joinContinued_of_tiled hlines
  obtain ⟨hresult, hasked⟩ := runsAs_expandWithin (maxIncludeDepth + 1) h hj []
  exact ⟨_, hj, hresult.bind_eq, hasked⟩

/-- A continued condition in front of an include line, and a continued rule in the file. -/
theorem passes_commute_continued :
    ∃ (files : Text → Option Text) (s : Text), s = "RewriteCond a \\\n  b\nInclude x".toList ∧
      files "x".toList = some "RewriteRule c \\\n\td".toList ∧ (∀ c ∈ texts files s, KeepsApart c) ∧
      (result files s).bind joinContinued = .ok "RewriteCond a b\nRewriteRule c d\n".toList := by
  -- a stretch is continued in either text, and it is of lines that include nothing
  have hcond : KeepsApart "RewriteCond a \\\n  b\nInclude x".toList := by
    refine ⟨[⟨["RewriteCond a \\".toList], "  b".toList, by decide, by decide⟩,
      ⟨[], "Include x".toList, by decide, by decide⟩], by decide, ?_⟩
    rintro t ht hrun
    rcases List.mem_cons.1 ht with rfl | ht
    · exact ⟨by decide, by decide, by decide⟩
    · exact absurd (by rw [List.mem_singleton.1 ht]) hrun
  have hrule : KeepsApart "RewriteRule c \\\n\td".toList := by
    refine ⟨[⟨["RewriteRule c \\".toList], "\td".toList, by decide, by decide⟩], by decide, ?_⟩
    rintro t ht -
    rw [List.mem_singleton.1 ht]
    exact ⟨by decide, by decide, by decide⟩
  -- these are all the texts, since the included one includes nothing
  have htexts :
      texts (fun _ => some "RewriteRule c \\\n\td".toList)
        "RewriteCond a \\\n  b\nInclude x".toList =
      ["RewriteCond a \\\n  b\nInclude x".toList, "RewriteRule c \\\n\td".toList] := by
    decide +kernel
  have hapart :
      ∀ c ∈ texts (fun _ => some "RewriteRule c \\\n\td".toList)
          "RewriteCond a \\\n  b\nInclude x".toList,
        KeepsApart c := by
    rw [htexts]
    exact List.forall_mem_cons.2 ⟨hcond, List.forall_mem_singleton.2 hrule⟩
  obtain ⟨j, hj, hsame, -⟩ := passes_commute _ _ hapart
  obtain rfl : "RewriteCond a b\nInclude x\n".toList = j :=
    Except.ok.inj ((by decide : _ = _).trans hj)
  exact ⟨_, _, rfl, rfl, hapart, hsame.trans (by decide +kernel)⟩

/-- An include line that goes on in the next line is taken for one whose path is a backslash. -/
theorem not_passes_commute :
    ¬ ∀ (files : Text → Option Text) (s j u : Text),
        (∀ path contents, files path = some contents → ∃ j, joinContinued contents = .ok j) →
        joinContinued s = .ok j → result (joinedFiles files) j = .ok u →
        (result files s).bind joinContinued = .ok u := by
  intro hall
  have hsame :=
    hall (fun path => if path = "x".toList then some [] else none) "Include \\\n  x".toList
      "Include x\n".toList [] ?_ (by decide) (by decide +kernel)
  · revert hsame
    decide +kernel
  · intro path contents hpath
    obtain ⟨-, rfl⟩ : _ ∧ [] = contents := by simpa using hpath
    exact ⟨[], rfl⟩

/-- An include line that another line goes on in is replaced all the same. -/
example :
    (result (fun _ => some []) "a \\\nInclude x".toList).bind joinContinued =
      .error .danglingContinuation ∧
    (joinContinued "a \\\nInclude x".toList).bind (result (joinedFiles fun _ => some [])) =
      .ok "a Include x\n".toList := by
  decide +kernel

/-- A line that is an include line only by being joined stays as it is. -/
example :
    (result (fun _ => some []) "Inclu\\\nde x".toList).bind joinContinued =
      .ok "Include x\n".toList ∧
    (joinContinued "Inclu\\\nde x".toList).bind (result (joinedFiles fun _ => some [])) =
      .ok [] := by
  decide +kernel

/-- And so does a carriage return that is at the end of a line only by being joined. -/
example : (result (fun _ => none) "a\r\\\n\n".toList).bind joinContinued = .ok "a\r\n".toList ∧
    (joinContinued "a\r\\\n\n".toList).bind (result (joinedFiles fun _ => none)) =
      .ok "a\n".toList := by
  decide +kernel

end Source

end UrlRewrite
