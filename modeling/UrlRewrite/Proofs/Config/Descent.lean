import Mathlib.Data.List.DropRight
import UrlRewrite.Config.Block
import UrlRewrite.Proofs.Text.Keyword

/-!
# Reading by descent

Blocks are read with those that are open on a stack. Blocks can also be read by recursive descent: a
loop takes one child after the other off the text, whole blocks among them, until the block ends.
This module says that the two are the same.

* `Reader.turn` is one turn of the loop: the end of the block, a comment, a child, or a single
  character. A child is what the first of the permitted kinds takes off (`Directive.consumeAny`);
* `Reader.runAll_eq_turn` says that reading a block is this loop, turn by turn.

What is read in a block does not depend on the blocks around it: they go on where it has ended, with
the directive that it has become (`Reader.run_append`). The order in which kinds are tried does not
matter between blocks and lines, since only markers begin with an angle bracket.
-/

namespace UrlRewrite

/-! ### What begins with an angle bracket -/

/-- No name of a directive begins with an angle bracket. -/
theorem afterName?_of_lt (kind : DirectiveKind) (s : Text) :
    Text.afterKeyword? kind.name.toList ('<' :: s) = none := by
  cases kind <;> exact Text.afterKeyword?_eq_none (i := 0) rfl rfl (by decide)

/-- No line begins with an angle bracket. -/
theorem Line.read_of_lt (kind : DirectiveKind) (s : Text) : read kind ('<' :: s) = .ok none := by
  cases kind with
  | serverName => simp [read, oneField?, afterName?_of_lt]
  | rewriteEngine => simp [read, switch?, afterName?_of_lt]
  | rewriteCond => simp [read, twoFields?, afterName?_of_lt]
  | rewriteRule => simp [read, twoFields?, afterName?_of_lt]
  | virtualHost => rfl
  | ifModule => rfl

namespace Opening

theorem afterMarker?_eq_none {keyword : String} {s : Text} (h : s.head? ≠ some '<') :
    afterMarker? keyword s = none := by
  rw [afterMarker?.eq_def]
  split
  · exact absurd rfl h
  · rfl

/-- Only the marker of the main context does not begin with an angle bracket. -/
theorem ofBlock?_eq_none {kind : BlockKind} (hkind : kind ≠ .main) {s : Text}
    (h : s.head? ≠ some '<') :
    ofBlock? kind s = none := by
  cases kind with
  | main => exact absurd rfl hkind
  | virtualHost => simp [ofBlock?, virtualHost?, afterMarker?_eq_none h]
  | ifModule => simp [ofBlock?, ifModule?, afterMarker?_eq_none h]

/-- A marker opens a block of its kind. -/
theorem kind_of_ofBlock? {kind : BlockKind} {opening : Opening} {s rest : Text}
    (h : ofBlock? kind s = some (opening, rest)) : opening.kind = kind := by
  cases kind with
  | main =>
    obtain ⟨rfl, -⟩ := Prod.mk.inj (Option.some.inj h)
    rfl
  | virtualHost =>
    simp only [ofBlock?, virtualHost?, Option.bind_eq_bind, Option.bind_eq_some_iff] at h
    obtain ⟨_, -, _, -, _, -, heq⟩ := h
    obtain ⟨rfl, -⟩ := Prod.mk.inj (Option.some.inj heq)
    rfl
  | ifModule =>
    simp only [ofBlock?, ifModule?, Option.bind_eq_bind, Option.bind_eq_some_iff] at h
    obtain ⟨_, -, h⟩ := h
    -- with the mark of negation and without it
    rcases Option.or_eq_some_iff.1 h with hnegated | ⟨-, hplain⟩
    · split at hnegated
      · obtain ⟨_, -, heq⟩ := Option.map_eq_some_iff.1 hnegated
        obtain ⟨rfl, -⟩ := Prod.mk.inj heq
        rfl
      · simp at hnegated
    · obtain ⟨_, -, heq⟩ := Option.map_eq_some_iff.1 hplain
      obtain ⟨rfl, -⟩ := Prod.mk.inj heq
      rfl

end Opening

/-! ### The blocks around a block -/

namespace Reader

theorem trimStart_trimStart (s : Text) : Text.trimStart (Text.trimStart s) = Text.trimStart s :=
  List.dropWhile_idempotent _ s

/-- A run takes one step after the other, each behind the blanks that come first. -/
theorem run_eq (top : Frame) (outer : List Frame) (s : Text) :
    run top outer s =
      match step top outer (Text.trimStart s) with
      | .error e => .error e
      | .ok (.ended f rest) => .ok (f, Text.trimStart rest)
      | .ok (.more top' outer' rest) => run top' outer' rest := by
  rw [run]
  split <;> rename_i h <;> rw [h]

/-- Blanks in front do not matter. -/
theorem run_trimStart (top : Frame) (outer : List Frame) (s : Text) :
    run top outer (Text.trimStart s) = run top outer s := by
  rw [run_eq, run_eq top outer s, trimStart_trimStart]

/-- The block `f` once a block in it has ended. -/
def resume (f g : Frame) (below : List Frame) (rest : Text) : Except ConfigError (Frame × Text) :=
  match g.close with
  | .error e => .error e
  | .ok d => run (d.elim f f.add) below rest

/-- A step does not look at the blocks below those that are listed, but to end the last one of
these. -/
theorem step_append (top : Frame) (outer below : List Frame) (s : Text) :
    step top (outer ++ below) s =
      match step top outer s with
      | .error e => .error e
      | .ok (.ended f rest) => endBlock f below rest
      | .ok (.more top' outer' rest) => .ok (.more top' (outer' ++ below) rest) := by
  unfold step
  -- only the end of a block looks at the frames below
  split
  · cases outer with
    | nil => rfl
    | cons f outer =>
      simp only [List.cons_append, endBlock]
      cases top.close <;> rfl
  · split
    · rfl
    · split
      · rfl
      · split
        · rfl
        · cases Line.readAny _ Line.kinds with
          | error e => rfl
          | ok r => rcases r with - | ⟨d, rest⟩ <;> rfl

/-- A block is read to its end whatever the blocks around it are; then the one around it goes on. -/
theorem run_append (top : Frame) (outer : List Frame) (f : Frame) (below : List Frame) (s : Text) :
    run top (outer ++ f :: below) s =
      match run top outer s with
      | .error e => .error e
      | .ok (g, rest) => resume f g below rest := by
  induction top, outer, s using run.induct with
  | case1 top outer s e hstep =>
    rw [run_eq, step_append, run_eq top outer s, hstep]
  | case2 top outer s g rest hstep =>
    rw [run_eq, step_append, run_eq top outer s, hstep]
    simp only [endBlock, resume]
    -- the block that ends is closed into the frame below it, as a call would give it back
    cases g.close with
    | error e => rfl
    | ok d => exact (run_trimStart _ below rest).symm
  | case3 top outer s top' outer' rest hstep ih =>
    rw [run_eq, step_append, run_eq top outer s, hstep]
    exact ih

/-! ### Runs that end -/

/-- What ends the outermost block is its marker. -/
theorem of_step_ended {top f : Frame} {outer : List Frame} {s rest : Text}
    (h : step top outer s = .ok (.ended f rest)) :
    f = top ∧ outer = [] ∧ top.opening.afterEnd? s = some rest := by
  cases taken_of_step h with
  | ended hend => exact ⟨rfl, rfl, hend⟩

/-- A run that ends with a frame: steps are taken until the outermost block ends, whose frame it
is. -/
inductive Runs (g : Frame) (rest : Text) : Frame → List Frame → Text → Prop where
  | ended {s behind : Text} (hend : g.opening.afterEnd? (Text.trimStart s) = some behind)
      (hrest : rest = Text.trimStart behind) : Runs g rest g [] s
  | more {top top' : Frame} {outer outer' : List Frame} {s behind : Text}
      (hstep : step top outer (Text.trimStart s) = .ok (.more top' outer' behind))
      (h : Runs g rest top' outer' behind) : Runs g rest top outer s

/-- A run that gives a frame ends with it. -/
theorem runs_of_run {top g : Frame} {outer : List Frame} {s rest : Text}
    (h : run top outer s = .ok (g, rest)) : Runs g rest top outer s := by
  induction top, outer, s using run.induct with
  | case1 top outer s e hstep =>
    rw [run_eq, hstep] at h
    simp at h
  | case2 top outer s f behind hstep =>
    rw [run_eq, hstep] at h
    obtain ⟨rfl, rfl⟩ : f = g ∧ Text.trimStart behind = rest := by simpa using h
    obtain ⟨rfl, rfl, hend⟩ := of_step_ended hstep
    exact .ended hend rfl
  | case3 top outer s top' outer' behind hstep ih =>
    rw [run_eq, hstep] at h
    exact .more hstep (ih h)

/-! ### The marker of a block -/

/-- The outermost of the blocks that are open. -/
def outermost (top : Frame) (outer : List Frame) : Frame := outer.getLast?.getD top

/-- The outermost block is not the one on top, if there are others. -/
@[simp] theorem outermost_cons (top f : Frame) (outer : List Frame) :
    outermost top (f :: outer) = outermost f outer := by
  simp [outermost, List.getLast?_cons]

/-- The opening of the outermost block depends on nothing but openings. -/
theorem opening_outermost {f g : Frame} (h : f.opening = g.opening) (outer : List Frame) :
    (outermost f outer).opening = (outermost g outer).opening := by
  cases outer with
  | nil => exact h
  | cons top outer => simp

theorem opening_resumed (f : Frame) (d : Option Directive) :
    (d.elim f f.add).opening = f.opening := by
  cases d <;> rfl

/-- No step changes the marker of the outermost block. -/
theorem opening_of_step {top top' : Frame} {outer outer' : List Frame} {s rest : Text}
    (h : step top outer s = .ok (.more top' outer' rest)) :
    (outermost top' outer').opening = (outermost top outer).opening := by
  cases taken_of_step h with
  | @closed f _ _ _ d hend hclose =>
    rw [outermost_cons]
    exact opening_outermost (opening_resumed f d) outer'
  | comment => rfl
  | opened hopen => rw [outermost_cons]
  | @found _ _ _ d hread => exact opening_outermost (f := top.add d) (g := top) rfl outer
  | passed hread => rfl

/-- The block that has been read in the end is the outermost one. -/
theorem Runs.opening_eq {top g : Frame} {outer : List Frame} {s rest : Text}
    (h : Runs g rest top outer s) : g.opening = (outermost top outer).opening := by
  induction h with
  | ended => rfl
  | more hstep _ ih => exact ih.trans (opening_of_step hstep)

/-- A block keeps its opening while it is read. -/
theorem opening_of_runAll {f g : Frame} {s rest : Text} (h : runAll f s = .ok (g, rest)) :
    g.opening = f.opening := (runs_of_run h).opening_eq

end Reader

/-- Any block but the main context is a directive once it has ended. -/
theorem Frame.exists_of_close {f : Frame} (hf : f.opening ≠ .main) {r : Option Directive}
    (h : f.close = .ok r) : ∃ d, r = some d := by
  rw [close] at h
  split at h
  · rename_i hmain
    exact absurd hmain hf
  · obtain ⟨port, -, rfl⟩ := map_eq_ok_iff.1 h
    exact ⟨_, rfl⟩
  · exact ⟨_, (Except.ok.inj h).symm⟩

/-- A block that is no main context is closed to a directive. -/
theorem Reader.exists_of_close {f g : Frame} {s rest : Text} {r : Option Directive}
    (hf : f.opening ≠ .main) (hrun : runAll f s = .ok (g, rest)) (hclose : g.close = .ok r) :
    ∃ d, r = some d :=
  Frame.exists_of_close ((opening_of_runAll hrun).symm ▸ hf) hclose

/-- No marker opens a main context. -/
theorem Opening.ne_main_of_ofBlock? {kind : BlockKind} (hkind : kind ≠ .main) {opening : Opening}
    {s rest : Text} (h : ofBlock? kind s = some (opening, rest)) : opening ≠ .main := by
  rintro rfl
  exact hkind (kind_of_ofBlock? h).symm

/-- A block within another one is no main context. -/
theorem Reader.ne_main_of_openAny? {opening : Opening} {f : Frame} {s rest : Text}
    (h : openAny? opening.inner s = some (f, rest)) : f.opening ≠ .main := by
  obtain ⟨kind, hkind, h⟩ := List.exists_of_findSome?_eq_some h
  obtain ⟨⟨marker, behind⟩, hmarker, heq⟩ := Option.map_eq_some_iff.1 h
  obtain ⟨rfl, -⟩ := Prod.mk.inj heq
  exact Opening.ne_main_of_ofBlock? (ne_main_of_mem_inner hkind) hmarker

/-! ### The loop over the children -/

/-- The kinds of directives that may stand in a block, in the order in which they are tried. -/
def Opening.permitted : Opening → List DirectiveKind
  | .main => [.virtualHost, .ifModule, .rewriteCond, .rewriteRule, .rewriteEngine, .serverName]
  | .virtualHost _ _ => [.ifModule, .rewriteCond, .rewriteRule, .rewriteEngine, .serverName]
  | .ifModule _ _ =>
    [.virtualHost, .rewriteCond, .rewriteRule, .rewriteEngine, .serverName, .ifModule]

/-- The blocks among the permitted directives are those that can be opened. -/
theorem Opening.filterMap_permitted (opening : Opening) :
    opening.permitted.filterMap DirectiveKind.block? = opening.inner := by
  cases opening <;> rfl

/-- The others among the permitted directives are those on one line. -/
theorem Opening.filter_permitted (opening : Opening) :
    (opening.permitted.filter fun kind => kind.block?.isNone) = Line.kinds := by
  cases opening <;> rfl

namespace Directive

/-- Takes a directive of the first kind of which there is one off the beginning of a text. -/
def consumeAny (s : Text) : List DirectiveKind → Except ConfigError (Option (Directive × Text))
  | [] => .ok none
  | kind :: kinds =>
    match consume kind s with
    | .error e => .error e
    | .ok (some d, rest) => .ok (some (d, rest))
    | .ok (none, _) => consumeAny s kinds

/-- A directive on one line is consumed by reading its line. -/
theorem consume_of_line {kind : DirectiveKind} (hkind : kind.block? = none) (s : Text) :
    consume kind s =
      match Line.read kind s with
      | .error e => .error e
      | .ok (some (d, rest)) => .ok (some d, Text.trimStart rest)
      | .ok none => .ok (none, s) := by
  rw [consume, hkind]
  rcases Line.read kind s with e | (- | ⟨d, rest⟩) <;> rfl

/-- A directive with a block is consumed by reading the block from its marker. -/
theorem consume_of_block {kind : DirectiveKind} {block : BlockKind}
    (hkind : kind.block? = some block) (s : Text) :
    consume kind s =
      match Opening.ofBlock? block s with
      | none => .ok (none, s)
      | some (opening, rest) =>
        match Reader.runAll (Frame.opened opening s) rest with
        | .error e => .error e
        | .ok (f, rest) => f.close.map (·, rest) := by
  rw [consume, hkind]
  simp only [Reader.readBlock]
  rcases Opening.ofBlock? block s with - | ⟨opening, rest⟩
  · rfl
  · simp only
    rcases Reader.runAll (Frame.opened opening s) rest with e | ⟨f, rest⟩
    · rfl
    · cases hclose : f.close <;> simp [Except.map, bind, Except.bind, hclose]

/-- The child that a block is: it is read to its end and closed. -/
def child (f : Frame) (s : Text) : Except ConfigError (Option (Directive × Text)) :=
  match Reader.runAll f s with
  | .error e => .error e
  | .ok (g, rest) => g.close.map fun d => d.map (·, rest)

/-- The main context is no directive. -/
theorem block_ne_main {kind : DirectiveKind} {block : BlockKind} (h : kind.block? = some block) :
    block ≠ .main := by
  rintro rfl
  cases kind <;> simp [DirectiveKind.block?] at h

/-- At an angle bracket there is nothing but blocks. -/
theorem consumeAny_of_lt (kinds : List DirectiveKind) (s : Text) :
    consumeAny ('<' :: s) kinds =
      match Reader.openAny? (kinds.filterMap DirectiveKind.block?) ('<' :: s) with
      | none => .ok none
      | some (f, rest) => child f rest := by
  -- lines are passed over, since none of them begins with a bracket; blocks are tried in turn
  induction kinds with
  | nil => rfl
  | cons kind kinds ih =>
    cases hkind : kind.block? with
    | none =>
      rw [consumeAny, consume_of_line hkind, Line.read_of_lt]
      simpa [List.filterMap_cons, hkind] using ih
    | some block =>
      rw [consumeAny, consume_of_block hkind, List.filterMap_cons_some hkind, Reader.openAny?,
        List.findSome?_cons]
      rcases hmarker : Opening.ofBlock? block ('<' :: s) with - | ⟨opening, rest⟩
      · exact ih
      · simp only [Option.map_some, child]
        rcases hrun : Reader.runAll (Frame.opened opening ('<' :: s)) rest with e | ⟨f, behind⟩
        · rfl
        · simp only
          cases hclose : f.close with
          | error e => rfl
          | ok r =>
            have hopening := Opening.ne_main_of_ofBlock? (block_ne_main hkind) hmarker
            obtain ⟨d, rfl⟩ := Reader.exists_of_close hopening hrun hclose
            rfl

/-- Elsewhere there is nothing but lines. -/
theorem consumeAny_of_ne_lt {s : Text} (hs : s.head? ≠ some '<') (kinds : List DirectiveKind) :
    consumeAny s kinds =
      (Line.readAny s (kinds.filter fun kind => kind.block?.isNone)).map
        (Option.map fun (d, rest) => (d, Text.trimStart rest)) := by
  -- without a bracket, blocks are passed over and only lines are tried
  induction kinds with
  | nil => rfl
  | cons kind kinds ih =>
    cases hkind : kind.block? with
    | none =>
      rw [consumeAny, consume_of_line hkind, List.filter_cons_of_pos (by simp [hkind]),
        Line.readAny]
      rcases Line.read kind s with e | (- | ⟨d, rest⟩)
      · rfl
      · exact ih
      · rfl
    | some block =>
      rw [consumeAny, consume_of_block hkind, List.filter_cons_of_neg (by simp [hkind]),
        Opening.ofBlock?_eq_none (block_ne_main hkind) hs]
      exact ih

end Directive

namespace Reader

/-- What a turn of the loop leads to: the block has ended, or the loop goes on. -/
inductive Turn where
  | ended (rest : Text)
  | again (f : Frame) (rest : Text)

/-- One turn of the loop over the children of a block: its end, a comment, a child, or a character
that is skipped. -/
def turn (f : Frame) (s : Text) : Except ConfigError Turn :=
  match f.opening.afterEnd? (Text.trimStart s) with
  | some rest => .ok (.ended (Text.trimStart rest))
  | none =>
    match Text.trimStart s with
    | [] => .error (.unterminated f.opening.kind f.near)
    | c :: rest =>
      if c = '#' then .ok (.again f ((rest.dropWhile (· != '\n')).drop 1))
      else
        (Directive.consumeAny (c :: rest) f.opening.permitted).map fun
          | some (d, rest) => .again (f.add d) rest
          | none => .again f rest

theorem run_cons_of_isBlank {c : Char} (hc : isBlank c) (top : Frame)
    (outer : List Frame) (s : Text) :
    run top outer (c :: s) = run top outer s := by
  rw [← run_trimStart, Text.trimStart, List.dropWhile_cons_of_pos hc]
  exact run_trimStart top outer s

/-- Nothing is left of a line whether the line feed is left or not. -/
theorem run_drop_line (top : Frame) (outer : List Frame) (s : Text) :
    run top outer ((s.dropWhile (· != '\n')).drop 1) = run top outer (s.dropWhile (· != '\n')) := by
  cases hrest : s.dropWhile (· != '\n') with
  | nil => rfl
  | cons c rest =>
    have hc : c = '\n' := by
      have hhead := List.head?_dropWhile_not (· != '\n') s
      simpa [hrest] using hhead
    rw [hc]
    exact (run_cons_of_isBlank (by decide) top outer rest).symm

/-- What the block `f` goes on with behind what stands at the beginning of a text. -/
theorem run_child (f : Frame) (s behind : Text) :
    (match openAny? f.opening.inner s with
      | some (g, rest) => run g [f] rest
      | none =>
        match Line.readAny s Line.kinds with
        | .error e => .error e
        | .ok (some (d, rest)) => run (f.add d) [] rest
        | .ok none => run f [] behind) =
      match Directive.consumeAny s f.opening.permitted with
      | .error e => .error e
      | .ok (some (d, rest)) => runAll (f.add d) rest
      | .ok none => runAll f behind := by
  by_cases hs : s.head? = some '<'
  · obtain ⟨tail, rfl⟩ : ∃ tail, s = '<' :: tail := by
      cases s <;> simp_all
    have hlines : Line.readAny ('<' :: tail) Line.kinds = .ok none := by
      simp [Line.kinds, Line.readAny, Line.read_of_lt]
    rw [Directive.consumeAny_of_lt, Opening.filterMap_permitted, hlines]
    rcases hopen : openAny? f.opening.inner ('<' :: tail) with - | ⟨g, rest⟩
    · rfl
    · -- the block that begins is read to its end, and `f` is resumed
      refine (run_append g [] f [] rest).trans ?_
      simp only [Directive.child, runAll]
      rcases hrun : run g [] rest with e | ⟨ended, rest'⟩
      · rfl
      · simp only [resume]
        rcases hclose : ended.close with e | r
        · rfl
        · obtain ⟨d, rfl⟩ := exists_of_close (ne_main_of_openAny? hopen) hrun hclose
          rfl
  · have hblocks : openAny? f.opening.inner s = none := by
      rw [openAny?, List.findSome?_eq_none_iff]
      intro kind hkind
      rw [Opening.ofBlock?_eq_none (ne_main_of_mem_inner hkind) hs, Option.map_none]
    rw [Directive.consumeAny_of_ne_lt hs, Opening.filter_permitted, hblocks]
    rcases Line.readAny s Line.kinds with e | (- | ⟨d, rest⟩)
    · rfl
    · rfl
    · exact (run_trimStart _ [] rest).symm

/-- A block is read turn by turn. -/
theorem runAll_eq_turn (f : Frame) (s : Text) :
    runAll f s =
      match turn f s with
      | .error e => .error e
      | .ok (.ended rest) => .ok (f, rest)
      | .ok (.again g rest) => runAll g rest := by
  rw [runAll, run_eq, turn]
  unfold step
  cases hend : f.opening.afterEnd? (Text.trimStart s) with
  | some rest => rfl
  | none =>
    cases htext : Text.trimStart s with
    | nil => rfl
    | cons c rest =>
      by_cases hc : c = '#'
      · simp only [hc, if_true]
        rw [List.dropWhile_cons_of_pos (by decide)]
        exact (run_drop_line f [] rest).symm
      · simp only [hc, if_false]
        -- a child is read with its block on the stack, or by a call of its own
        refine (Eq.trans ?_ (run_child f (c :: rest) rest)).trans ?_
        · rcases openAny? f.opening.inner (c :: rest) with - | ⟨g, behind⟩
          · rcases Line.readAny (c :: rest) Line.kinds with e | (- | ⟨d, behind⟩) <;> rfl
          · rfl
        · rcases Directive.consumeAny (c :: rest) f.opening.permitted with
            e | (- | ⟨d, behind⟩) <;> rfl

end Reader

end UrlRewrite
