import UrlRewrite.Proofs.Config.Descent

/-!
# Progress of the reader

Whatever the text is, reading it comes to an end.

* `Directive.isRest_of_consume`: a directive that is taken off a text leaves a shorter rest of it;
* `Reader.isRest_of_turn`: so does each turn of the loop over the children of a block. The loop
  therefore ends (`Reader.exists_loops`), within as many turns as there are characters
  (`Reader.Loops.add_length_le`);
* `Directive.Calls.isRest`: a directive in a block is looked for in a shorter text than the block
  itself;
* `Reader.readBlock_main`: a main context begins anywhere and ends at the end of the text, hence all
  of a text is read. Every error names a directive (`Reader.directive_of_run`), so that none is
  about the main context itself.

`Directive.consume_progress` puts these together.
-/

namespace UrlRewrite

namespace Reader

variable {f g : Frame} {s t rest : Text}

/-! ### What is left -/

/-- Behind the block there is what stands behind the marker that ends it. -/
theorem Runs.exists_afterEnd? {top : Frame} {outer : List Frame} (h : Runs g rest top outer s) :
    ∃ t behind, t <:+ s ∧ g.opening.afterEnd? t = some behind ∧ rest = Text.trimStart behind := by
  -- the text gets shorter with each step, so the end of a block is found in a part of it
  induction h with
  | @ended s behind hend hrest =>
    exact ⟨Text.trimStart s, behind, Text.trimStart_suffix s, hend, hrest⟩
  | @more _ _ _ _ s _ hstep _ ih =>
    obtain ⟨t, behind, ht, hend⟩ := ih
    refine ⟨t, behind, ht.trans ?_, hend⟩
    rcases isRest_of_step hstep with ⟨hrest, -⟩ | ⟨-, rfl, -⟩
    · exact hrest.suffix.trans (Text.trimStart_suffix s)
    · exact List.nil_suffix

theorem suffix_of_afterEnd? {opening : Opening} (h : opening.afterEnd? s = some rest) :
    rest <:+ s := by
  by_cases hmain : opening = .main
  · rw [hmain, Opening.afterEnd?_main] at h
    simp only [Option.ite_none_right_eq_some, Option.some.injEq] at h
    exact h.2 ▸ List.nil_suffix
  · exact (Opening.isRest_of_afterEnd? hmain h).suffix

theorem suffix_of_runAll (h : runAll f s = .ok (g, rest)) : rest <:+ s := by
  obtain ⟨t, behind, ht, hend, rfl⟩ := (runs_of_run h).exists_afterEnd?
  exact (Text.trimStart_suffix behind).trans ((suffix_of_afterEnd? hend).trans ht)

end Reader

namespace Directive

variable {kind : DirectiveKind} {d : Directive} {s rest : Text}

/-- A directive is taken off the beginning of a text. -/
theorem isRest_of_consume {r : Option Directive} (h : consume kind s = .ok (r, rest)) :
    r = none ∧ rest = s ∨ (∃ d, r = some d) ∧ rest.IsRest s := by
  cases hkind : kind.block? with
  | none =>
    rw [consume_of_line hkind] at h
    split at h
    · simp at h
    · rename_i d behind hread
      obtain ⟨rfl, rfl⟩ := Prod.mk.inj (Except.ok.inj h)
      exact Or.inr ⟨⟨d, rfl⟩, .of_suffix (Text.trimStart_suffix behind) (Line.isRest_of_read hread)⟩
    · obtain ⟨rfl, rfl⟩ := Prod.mk.inj (Except.ok.inj h)
      exact Or.inl ⟨rfl, rfl⟩
  | some block =>
    rw [consume_of_block hkind] at h
    split at h
    · obtain ⟨rfl, rfl⟩ := Prod.mk.inj (Except.ok.inj h)
      exact Or.inl ⟨rfl, rfl⟩
    · rename_i opening inside hmarker
      -- the marker takes something off, and what the block leaves is a part of what follows it
      have hblock := block_ne_main hkind
      split at h
      · simp at h
      · rename_i f behind hrun
        obtain ⟨r', hclose, heq⟩ := map_eq_ok_iff.1 h
        obtain ⟨rfl, rfl⟩ := Prod.mk.inj heq
        refine Or.inr ⟨?_,
          .of_suffix (Reader.suffix_of_runAll hrun) (Opening.isRest_of_ofBlock? hblock hmarker)⟩
        exact Reader.exists_of_close (Opening.ne_main_of_ofBlock? hblock hmarker) hrun hclose

/-- Something is taken off a text by the directive that is consumed. -/
theorem isRest_of_consumeAny {kinds : List DirectiveKind}
    (h : consumeAny s kinds = .ok (some (d, rest))) :
    rest.IsRest s := by
  induction kinds with
  | nil => simp [consumeAny] at h
  | cons kind kinds ih =>
    rw [consumeAny] at h
    split at h
    · simp at h
    · rename_i d' rest' hconsume
      obtain ⟨rfl, rfl⟩ := Prod.mk.inj (Option.some.inj (Except.ok.inj h))
      rcases isRest_of_consume hconsume with ⟨hnone, -⟩ | ⟨-, hrest⟩
      · simp at hnone
      · exact hrest
    · exact ih h

end Directive

namespace Reader

variable {f g h : Frame} {s t u rest : Text}

/-! ### The turns of a loop -/

/-- A turn of the loop that does not end it makes the text shorter. -/
theorem isRest_of_turn (hturn : turn f s = .ok (.again g t)) : t.IsRest s := by
  rw [turn] at hturn
  split at hturn
  · simp at hturn
  · split at hturn
    · simp at hturn
    · rename_i c rest htext
      refine .trans_suffix ?_ (htext ▸ Text.trimStart_suffix s)
      split at hturn
      · obtain ⟨-, rfl⟩ : f = g ∧ (rest.dropWhile (· != '\n')).drop 1 = t := by simpa using hturn
        exact .of_cons ((List.drop_suffix 1 _).trans (List.dropWhile_suffix _))
      · obtain ⟨r, hany, heq⟩ := map_eq_ok_iff.1 hturn
        split at heq
        · rename_i d behind
          obtain ⟨-, rfl⟩ : f.add d = g ∧ behind = t := by simpa using heq
          exact Directive.isRest_of_consumeAny hany
        · obtain ⟨-, rfl⟩ : f = g ∧ rest = t := by simpa using heq
          exact .of_cons (List.suffix_refl rest)

/-- `Loops f s n g t`: `n` turns of the loop lead from the block `f` and the text `s` to the block
`g` and the text `t`. -/
inductive Loops : Frame → Text → Nat → Frame → Text → Prop
  | start {f : Frame} {s : Text} : Loops f s 0 f s
  | again {f g h : Frame} {s t u : Text} {n : Nat} (hturn : turn f s = .ok (.again g t))
      (hrest : Loops g t n h u) : Loops f s (n + 1) h u

namespace Loops

variable {n : Nat}

theorem suffix (hloop : Loops f s n g t) : t <:+ s := by
  induction hloop with
  | start => exact List.suffix_refl _
  | again hturn _ ih => exact ih.trans (isRest_of_turn hturn).suffix

/-- Every turn takes at least one character. -/
theorem add_length_le (hloop : Loops f s n g t) : n + t.length ≤ s.length := by
  induction hloop with
  | start => exact Nat.le_of_eq (Nat.zero_add _)
  | again hturn _ ih =>
    have hlt := (isRest_of_turn hturn).length_lt
    omega

/-- After any number of turns, the rest is read as if it had been read at once. -/
theorem runAll_eq (hloop : Loops f s n g t) : runAll f s = runAll g t := by
  induction hloop with
  | start => rfl
  | again hturn _ ih => rw [runAll_eq_turn, hturn, ← ih]

end Loops

/-- The loop comes to a last turn. -/
theorem exists_loops (f : Frame) (s : Text) :
    ∃ n g t,
      Loops f s n g t ∧ ((∃ rest, turn g t = .ok (.ended rest)) ∨ ∃ e, turn g t = .error e) := by
  -- each turn takes something off the text, so there is a last one
  induction hlength : s.length using Nat.strong_induction_on generalizing f s with
  | _ length ih =>
    cases hturn : turn f s with
    | error e => exact ⟨0, f, s, .start, Or.inr ⟨e, hturn⟩⟩
    | ok r =>
      cases r with
      | ended rest => exact ⟨0, f, s, .start, Or.inl ⟨rest, hturn⟩⟩
      | again g t =>
        have hlt := (isRest_of_turn hturn).length_lt
        obtain ⟨n, h, u, hloop, hlast⟩ := ih t.length (hlength ▸ hlt) g t rfl
        exact ⟨n + 1, h, u, .again hturn hloop, hlast⟩

end Reader

namespace Directive

/-! ### Calls -/

/-- `Calls kind s child t`: when a directive of one kind is taken off the text `s`, one of another
kind may be tried at the text `t`, since a turn of the loop over the children of the block has come
to `t` and neither ends the block nor skips a comment. -/
inductive Calls (kind : DirectiveKind) (s : Text) : DirectiveKind → Text → Prop
  | inside {block : BlockKind} {opening : Opening} {inner t : Text} {n : Nat} {f : Frame}
      {c : Char} {rest : Text} {child : DirectiveKind} (hblock : kind.block? = some block)
      (hmarker : Opening.ofBlock? block s = some (opening, inner))
      (hloop : Reader.Loops (Frame.opened opening s) inner n f t)
      (htext : Text.trimStart t = c :: rest) (hend : f.opening.afterEnd? (c :: rest) = none)
      (hc : c ≠ '#') (hchild : child ∈ f.opening.permitted) : Calls kind s child (c :: rest)

/-- A child is looked for behind the marker of its block. -/
theorem Calls.isRest {kind child : DirectiveKind} {s t : Text} (h : Calls kind s child t) :
    t.IsRest s := by
  obtain ⟨hblock, hmarker, hloop, htext, -, -, -⟩ := h
  have hmarker := Opening.isRest_of_ofBlock? (block_ne_main hblock) hmarker
  exact .of_suffix ((htext ▸ Text.trimStart_suffix _).trans hloop.suffix) hmarker

/-- Calls do not go on forever. -/
theorem wellFounded_calls :
    WellFounded fun (callee caller : DirectiveKind × Text) =>
      Calls caller.1 caller.2 callee.1 callee.2 :=
  Subrelation.wf (fun h => h.isRest.length_lt)
    (measure fun p : DirectiveKind × Text => p.2.length).wf

end Directive

/-! ### Errors -/

/-- The directive that a block is; the main context is none. -/
def BlockKind.directive? : BlockKind → Option DirectiveKind
  | main => none
  | virtualHost => some .virtualHost
  | ifModule => some .ifModule

/-- The directive that is at fault; none if it is the main context itself. -/
def ConfigError.directive? : ConfigError → Option DirectiveKind
  | unterminated block _ => block.directive?
  | missingField d _ => some d
  | invalidField d _ _ => some d
  | flag d _ => some d
  | pattern d _ => some d
  | template d _ => some d

/-- What is wrong with a condition is reported for its directive. -/
theorem Condition.directive_of_build {subject pattern flags : Text} {e : ConfigError}
    (h : build subject pattern flags = .error e) : e.directive? = some .rewriteCond := by
  rcases bind_eq_error_iff.1 h with hsubject | ⟨_, -, h⟩
  · obtain ⟨cause, rfl⟩ := error_of_mapError hsubject
    rfl
  rcases bind_eq_error_iff.1 h with hpattern | ⟨_, -, h⟩
  · obtain ⟨cause, rfl⟩ := error_of_mapError hpattern
    rfl
  rcases bind_eq_error_iff.1 h with hflags | ⟨_, -, h⟩
  · obtain ⟨cause, rfl⟩ := error_of_mapError hflags
    rfl
  · simp at h

/-- What is wrong with a rule is reported for its directive. -/
theorem Rule.directive_of_build {pattern substitution flags : Text} {e : ConfigError}
    (h : build pattern substitution flags = .error e) : e.directive? = some .rewriteRule := by
  -- building fails in the pattern, the substitution, the flags or the value of the variable
  rcases bind_eq_error_iff.1 h with hpattern | ⟨_, -, h⟩
  · obtain ⟨cause, rfl⟩ := error_of_mapError hpattern
    rfl
  rcases bind_eq_error_iff.1 h with hsubstitution | ⟨_, -, h⟩
  · rw [readSubstitution] at hsubstitution
    split at hsubstitution
    · simp at hsubstitution
    · obtain ⟨cause, rfl⟩ := error_of_mapError (error_of_map hsubstitution)
      rfl
  rcases bind_eq_error_iff.1 h with hflags | ⟨_, -, h⟩
  · obtain ⟨cause, rfl⟩ := error_of_mapError hflags
    rfl
  rcases bind_eq_error_iff.1 h with hvalue | ⟨_, -, h⟩
  · rw [readEnvValue] at hvalue
    split at hvalue
    · simp at hvalue
    · obtain ⟨cause, rfl⟩ := error_of_mapError (error_of_map hvalue)
      rfl
  · simp at h

/-- A line is at fault for what is wrong in it. -/
theorem Line.directive_of_read {kind : DirectiveKind} {s : Text} {e : ConfigError}
    (h : read kind s = .error e) : e.directive? = some kind := by
  cases kind with
  | rewriteCond =>
    rw [read] at h
    split at h
    · simp at h
    · exact Condition.directive_of_build (error_of_map h)
  | rewriteRule =>
    rw [read] at h
    split at h
    · simp at h
    · exact Rule.directive_of_build (error_of_map h)
  | _ => simp [read] at h

/-- What is wrong with a line is reported for a directive. -/
theorem Line.exists_directive_of_readAny {kinds : List DirectiveKind} {s : Text} {e : ConfigError}
    (h : readAny s kinds = .error e) : ∃ kind, e.directive? = some kind := by
  induction kinds with
  | nil => simp [readAny] at h
  | cons kind kinds ih =>
    rw [readAny] at h
    split at h
    · exact ih h
    · exact ⟨kind, directive_of_read h⟩

/-- What is wrong with a block that is closed is reported for a virtual host. -/
theorem Frame.directive_of_close {f : Frame} {e : ConfigError} (h : f.close = .error e) :
    e.directive? = some .virtualHost := by
  rw [close] at h
  split at h
  · simp at h
  · rename_i ip port hopening
    have hport := error_of_map h
    rw [Opening.declaredPort.eq_def] at hport
    split at hport
    · simp at hport
    · split at hport
      · simp at hport
      · split at hport
        · simp at hport
        · obtain rfl := Except.error.inj hport
          rfl
  · simp at h

namespace Reader

/-- At the end of the text only the main context ends. -/
theorem directive_of_step {top : Frame} {outer : List Frame} {s : Text} {e : ConfigError}
    (h : step top outer s = .error e) : ∃ kind, e.directive? = some kind := by
  unfold step at h
  -- a block is closed, the text is over, a block is opened, or a line is read
  split at h
  · cases outer with
    | nil => simp [endBlock] at h
    | cons f outer => exact ⟨_, Frame.directive_of_close (error_of_map h)⟩
  · rename_i hend
    split at h
    · obtain rfl := Except.error.inj h
      cases hopening : top.opening with
      | main => simp [hopening, Opening.afterEnd?] at hend
      | virtualHost ip port => exact ⟨.virtualHost, rfl⟩
      | ifModule negated module => exact ⟨.ifModule, rfl⟩
    · split at h
      · simp at h
      · split at h
        · simp at h
        · exact Line.exists_directive_of_readAny (error_of_map h)

/-- Every error names a directive. -/
theorem directive_of_run {top : Frame} {outer : List Frame} {s : Text} {e : ConfigError}
    (h : run top outer s = .error e) : ∃ kind, e.directive? = some kind := by
  induction top, outer, s using run.induct with
  | case1 top outer s cause hstep =>
    rw [run_eq, hstep] at h
    obtain rfl := Except.error.inj h
    exact directive_of_step hstep
  | case2 top outer s f rest hstep =>
    rw [run_eq, hstep] at h
    simp at h
  | case3 top outer s top' outer' rest hstep ih =>
    rw [run_eq, hstep] at h
    exact ih h

/-- A main context is read to the end of the text. -/
theorem readBlock_main (s : Text) :
    (∃ f, readBlock .main s = .ok (some (f, []))) ∨
      ∃ e, readBlock .main s = .error e ∧ ∀ near, e ≠ .unterminated .main near := by
  have hblock : readBlock .main s = (runAll (Frame.opened .main s) s).map some := rfl
  rw [hblock]
  cases hrun : runAll (Frame.opened .main s) s with
  | error e =>
    refine Or.inr ⟨e, rfl, ?_⟩
    rintro near rfl
    obtain ⟨kind, hkind⟩ := directive_of_run hrun
    simp [ConfigError.directive?, BlockKind.directive?] at hkind
  | ok r =>
    obtain ⟨f, rest⟩ := r
    -- the main context ends at the end of the text only
    obtain ⟨t, behind, -, hend, rfl⟩ := (runs_of_run hrun).exists_afterEnd?
    rw [opening_of_runAll hrun, Frame.opened, Opening.afterEnd?_main] at hend
    simp only [Option.ite_none_right_eq_some, Option.some.injEq] at hend
    obtain ⟨-, rfl⟩ := hend
    exact Or.inl ⟨f, rfl⟩

end Reader

/-- Reading comes to an end on every text:

* taking a directive off a text leaves the text as it is, or leaves a shorter rest of it, or fails;
* the loop over the children of a block comes to a last turn, which decides its result, and there
  are at most as many turns as characters, since each one makes the text shorter;
* children are looked for in shorter texts than their block, and there is no endless chain of blocks
  in blocks;
* a configuration is read to its end, the main context is never missing, and it never has no end. -/
theorem Directive.consume_progress :
    (∀ (kind : DirectiveKind) (s : Text),
      consume kind s = .ok (none, s) ∨
        (∃ d rest, consume kind s = .ok (some d, rest) ∧ rest.IsRest s) ∨
        ∃ e, consume kind s = .error e) ∧
    (∀ (f : Frame) (s : Text),
      ∃ n g t, Reader.Loops f s n g t ∧ n + t.length ≤ s.length ∧
        ((∃ rest, Reader.turn g t = .ok (.ended rest) ∧ Reader.runAll f s = .ok (g, rest)) ∨
          ∃ e, Reader.turn g t = .error e ∧ Reader.runAll f s = .error e)) ∧
    (∀ (f g : Frame) (s t : Text), Reader.turn f s = .ok (.again g t) → t.IsRest s) ∧
    (∀ (kind child : DirectiveKind) (s t : Text), Calls kind s child t → t.IsRest s) ∧
    (WellFounded fun callee caller : DirectiveKind × Text =>
      Calls caller.1 caller.2 callee.1 callee.2) ∧
    ∀ s : Text,
      (∃ f, Reader.readBlock .main s = .ok (some (f, [])) ∧
        MainContext.read s = .ok ⟨f.children.reverse⟩) ∨
        ∃ e, Reader.readBlock .main s = .error e ∧ MainContext.read s = .error e ∧
          ∀ near, e ≠ .unterminated .main near := by
  refine ⟨fun kind s => ?_, fun f s => ?_, fun f g s t => Reader.isRest_of_turn,
    fun kind child s t => Calls.isRest, wellFounded_calls, fun s => ?_⟩
  · -- a directive is consumed, or nothing is, or it fails
    cases hconsume : consume kind s with
    | error e => exact Or.inr (Or.inr ⟨e, rfl⟩)
    | ok r =>
      obtain ⟨r, rest⟩ := r
      rcases isRest_of_consume hconsume with ⟨rfl, rfl⟩ | ⟨⟨d, rfl⟩, hrest⟩
      · exact Or.inl rfl
      · exact Or.inr (Or.inl ⟨d, rest, rfl, hrest⟩)
  · obtain ⟨n, g, t, hloop, hlast⟩ := Reader.exists_loops f s
    refine ⟨n, g, t, hloop, hloop.add_length_le, ?_⟩
    have hrun := hloop.runAll_eq.trans (Reader.runAll_eq_turn g t)
    rcases hlast with ⟨rest, hturn⟩ | ⟨e, hturn⟩
    · exact Or.inl ⟨rest, hturn, by rw [hrun, hturn]⟩
    · exact Or.inr ⟨e, hturn, by rw [hrun, hturn]⟩
  · rw [MainContext.read]
    rcases Reader.readBlock_main s with ⟨f, hblock⟩ | ⟨e, hblock, hmain⟩
    · exact Or.inl ⟨f, hblock, by rw [hblock]; rfl⟩
    · exact Or.inr ⟨e, hblock, by rw [hblock]; rfl, hmain⟩

end UrlRewrite
