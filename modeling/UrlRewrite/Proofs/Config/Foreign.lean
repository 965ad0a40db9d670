import Mathlib.Data.List.Infix
import UrlRewrite.Proofs.Config.Progress
import UrlRewrite.Proofs.Config.Readings
import UrlRewrite.Proofs.Config.RoundTrip

/-!
# Foreign text

A configuration holds much that this library knows nothing about: directives of other modules, and
their arguments. The loop over the children of a block skips such text, but character by character,
and tries to take a directive at each of them. So it is not the first word of a line that decides.

* `Reader.runAll_append_of_passes`: text is passed over if neither a child nor the end of the block
  begins at any of its characters;
* `MainContext.read_passed_line`: a line is therefore ignored as a whole if nothing begins at any of
  its characters in front of the first number sign. For that it is enough that no name of a
  directive stands there with a space or a tab behind it (`DirectiveKind.behindName?`), in the
  middle of a word or not.

`MainContext.read_name_inside_line` is a line with a foreign first word that is not ignored.

What is read does not depend on where the main context is said to begin, since no message names the
main context (`Reader.runAll_near`).
-/

namespace UrlRewrite

/-! ### The beginning of the main context -/

/-- The frame with another first line for messages. -/
def Frame.withNear (near : Text) (f : Frame) : Frame := { f with near := near }

namespace Reader

variable {f g : Frame} {s t rest : Text}

/-- The turn after which the block `f` has become another one. -/
def Turn.mapFrame (φ : Frame → Frame) : Turn → Turn
  | .ended rest => .ended rest
  | .again f rest => .again (φ f) rest

theorem opening_of_turn (h : turn f s = .ok (.again g t)) : g.opening = f.opening := by
  rw [turn] at h
  split at h
  · simp at h
  · split at h
    · simp at h
    · split at h
      · obtain ⟨rfl, -⟩ : f = g ∧ _ := by simpa using h
        rfl
      · obtain ⟨r, -, heq⟩ := map_eq_ok_iff.1 h
        split at heq
        · rename_i d behind
          obtain ⟨rfl, -⟩ : f.add d = g ∧ _ := by simpa using heq
          rfl
        · obtain ⟨rfl, -⟩ : f = g ∧ _ := by simpa using heq
          rfl

/-- The main context ends where the text ends, so that no turn complains about it. -/
theorem turn_near (hf : f.opening = .main) (near s : Text) :
    turn (f.withNear near) s = (turn f s).map (Turn.mapFrame (Frame.withNear near)) := by
  have hopening : (f.withNear near).opening = .main := hf
  rw [turn, turn, hopening, hf, Opening.afterEnd?_main]
  cases Text.trimStart s with
  | nil => rfl
  | cons c rest =>
    simp only [List.cons_ne_nil, if_false]
    split
    · rfl
    · rcases Directive.consumeAny (c :: rest) Opening.main.permitted with
        e | (- | ⟨d, behind⟩) <;> rfl

/-- What the main context reads does not depend on its first line. -/
theorem runAll_near (hf : f.opening = .main) (near s : Text) :
    runAll (f.withNear near) s = (runAll f s).map (Prod.map (Frame.withNear near) id) := by
  -- a turn leaves less text, so the induction is on the length
  induction hlength : s.length using Nat.strong_induction_on generalizing f s with
  | _ length ih =>
    rw [runAll_eq_turn, runAll_eq_turn f, turn_near hf]
    cases hturn : turn f s with
    | error e => rfl
    | ok r =>
      cases r with
      | ended rest => rfl
      | again g t =>
        have hlt := (isRest_of_turn hturn).length_lt
        exact ih t.length (hlength ▸ hlt) ((opening_of_turn hturn).trans hf) t rfl

end Reader

/-- A main context may as well begin with another line. -/
theorem MainContext.read_eq (near s : Text) :
    read s = (Reader.runAll ⟨.main, near, []⟩ s).map fun (f, _) => ⟨f.children.reverse⟩ := by
  have hnear := Reader.runAll_near (f := Frame.opened .main s) rfl near s
  have hframe : (Frame.opened .main s).withNear near = ⟨.main, near, []⟩ := rfl
  rw [← hframe, hnear]
  have hread :
      read s = ((Reader.runAll (Frame.opened .main s) s).map some).map
        fun r => r.elim default fun (f, _) => ⟨f.children.reverse⟩ := rfl
  rw [hread]
  cases Reader.runAll (Frame.opened .main s) s <;> rfl

/-! ### Text that is passed over -/

/-- `opening.Passes p behind`: in a block with this marker, neither a child nor the end of the block
begins at any character of `p` up to its first number sign, if `behind` follows `p`. -/
def Opening.Passes (opening : Opening) (p behind : Text) : Prop :=
  ∀ q s, p = q ++ s → s ≠ [] → '#' ∉ q →
    opening.afterEnd? (s ++ behind) = none ∧
      ∀ kind ∈ opening.permitted, Directive.consume kind (s ++ behind) = .ok (none, s ++ behind)

/-- The main context ends only where the text ends. -/
theorem Opening.passes_main {p behind : Text}
    (h : ∀ q s, p = q ++ s → s ≠ [] → '#' ∉ q → ∀ kind ∈ Opening.main.permitted,
      Directive.consume kind (s ++ behind) = .ok (none, s ++ behind)) : Opening.main.Passes
      p behind := by
  intro q s heq hs hq
  refine ⟨?_, h q s heq hs hq⟩
  rw [Opening.afterEnd?_main, if_neg (by simp [hs])]

namespace Opening.Passes

variable {opening : Opening} {c : Char} {p s behind : Text}

/-- What holds of a text holds of it without its first character. -/
theorem tail (h : opening.Passes (c :: p) behind) (hc : c ≠ '#') : opening.Passes p behind := by
  intro q s heq hs hq
  refine h (c :: q) s (by rw [heq, List.cons_append]) hs ?_
  simp [hq, Ne.symm hc]

/-- What holds of a text holds of the beginning of it, with the rest behind. -/
theorem front (h : opening.Passes (p ++ c :: s) behind) : opening.Passes p (c :: s ++ behind) := by
  intro q r heq hr hq
  have hall := h q (r ++ c :: s) (by rw [heq, List.append_assoc]) (by simp) hq
  rwa [List.append_assoc] at hall

end Opening.Passes

theorem Directive.consumeAny_eq_none {kinds : List DirectiveKind} {s : Text}
    (h : ∀ kind ∈ kinds, consume kind s = .ok (none, s)) : consumeAny s kinds = .ok none := by
  induction kinds with
  | nil => rfl
  | cons kind kinds ih =>
    obtain ⟨hkind, hkinds⟩ := List.forall_mem_cons.1 h
    rw [consumeAny, hkind]
    exact ih hkinds

namespace Reader

variable {f : Frame} {p behind : Text}

/-- A character at which nothing begins is skipped. -/
theorem runAll_cons_of_passes {c : Char} (hc : c ≠ '#') (h : f.opening.Passes (c :: p) behind) :
    runAll f (c :: (p ++ behind)) = runAll f (p ++ behind) := by
  obtain ⟨hend, hkinds⟩ := h [] (c :: p) rfl (List.cons_ne_nil c p) List.not_mem_nil
  rw [List.cons_append] at hend hkinds
  cases hblank : isBlank c with
  | true => exact run_cons_of_isBlank hblank f [] (p ++ behind)
  | false =>
    have htrim : Text.trimStart (c :: (p ++ behind)) = c :: (p ++ behind) :=
      (Text.Stops.cons hblank _).dropWhile
    rw [runAll_eq_turn, turn, htrim, hend]
    simp only [if_neg hc, Directive.consumeAny_eq_none hkinds]
    rfl

/-- Text without number signs is passed over, by induction on it. -/
theorem runAll_append_of_passes (hp : '#' ∉ p) (h : f.opening.Passes p behind) :
    runAll f (p ++ behind) = runAll f behind := by
  induction p with
  | nil => rfl
  | cons c p ih =>
    obtain ⟨hc, hp⟩ : c ≠ '#' ∧ '#' ∉ p := by simpa [eq_comm] using hp
    calc runAll f (c :: (p ++ behind))
        = runAll f (p ++ behind) := runAll_cons_of_passes hc h
      _ = runAll f behind := ih hp (h.tail hc)

/-- A comment is skipped up to the end of its line. -/
theorem runAll_comment {c t : Text} (hc : '\n' ∉ c) :
    runAll f ('#' :: (c ++ '\n' :: t)) = runAll f t := by
  have hline : ∀ d ∈ c, (d != '\n') = true := by
    intro d hd
    exact bne_iff_ne.2 fun heq => hc (heq ▸ hd)
  have hbreak : ('\n' :: t).dropWhile (· != '\n') = '\n' :: t := rfl
  rw [runAll, run_comment, List.dropWhile_append_of_pos hline, hbreak]
  exact run_cons_of_isBlank (by decide) f [] t

/-- A line is passed over: its comment in any case, and what stands in front of that if nothing
begins there. -/
theorem runAll_line_of_passes {l t : Text} (hl : '\n' ∉ l) (h : f.opening.Passes l ('\n' :: t)) :
    runAll f (l ++ '\n' :: t) = runAll f t := by
  cases hsplit : Text.splitFirst '#' l with
  | none =>
    rw [runAll_append_of_passes (Text.splitFirst_eq_none_iff.1 hsplit) h]
    exact run_cons_of_isBlank (by decide) f [] t
  | some parts =>
    obtain ⟨a, c⟩ := parts
    obtain ⟨rfl, ha⟩ := Text.eq_append_of_splitFirst hsplit
    have hc : '\n' ∉ c := fun hmem => hl (by simp [hmem])
    rw [List.append_assoc, runAll_append_of_passes ha h.front, List.cons_append, runAll_comment hc]

end Reader

/-- A line in which nothing begins is ignored as a whole. -/
theorem MainContext.read_line_of_passes {l t : Text} (hl : '\n' ∉ l)
    (h : Opening.main.Passes l ('\n' :: t)) :
    read (l ++ '\n' :: t) = read t := by
  rw [read_eq [] (l ++ '\n' :: t), read_eq [] t,
    Reader.runAll_line_of_passes (f := ⟨.main, [], []⟩) hl h]

/-! ### Names of directives -/

/-- What stands behind the name of a directive and a gap. In front of the name of a block there is
an angle bracket. -/
def DirectiveKind.behindName? (kind : DirectiveKind) (s : Text) : Option Text :=
  match kind.block? with
  | some _ => Opening.afterMarker? kind.name s
  | none => (Text.afterKeyword? kind.name.toList s).bind Line.gap?

namespace DirectiveKind

variable {kind : DirectiveKind} {s : Text}

theorem behindWord_append_break (h : (Text.afterKeyword? kind.name.toList s).bind Line.gap? = none)
    (t : Text) :
    (Text.afterKeyword? kind.name.toList (s ++ '\n' :: t)).bind Line.gap? = none := by
  rw [Line.behindName_append_behind (Text.isBehindLine_feed t), h, Option.map_none]

/-- Whether a name begins at a character of a line does not depend on the lines behind. -/
theorem behindName?_append_break (h : kind.behindName? s = none) (t : Text) :
    kind.behindName? (s ++ '\n' :: t) = none := by
  rw [behindName?] at h ⊢
  cases hkind : kind.block? with
  | none =>
    rw [hkind] at h
    exact behindWord_append_break h t
  | some block =>
    simp only [hkind] at h ⊢
    cases s with
    | nil => exact Opening.afterMarker?_eq_none (by simp)
    | cons c s =>
      by_cases hc : c = '<'
      · subst hc
        exact behindWord_append_break h t
      · exact Opening.afterMarker?_eq_none (by simpa using hc)

/-- Only the name of its kind begins a line. -/
theorem read_of_afterName? (h : (Text.afterKeyword? kind.name.toList s).bind Line.gap? = none) :
    Line.read kind s = .ok none := by
  have hfields {α : Type} (fields : Text → Option α) :
      ((Text.afterKeyword? kind.name.toList s).bind fun s => (Line.gap? s).bind fields) = none := by
    rw [← Option.bind_assoc, h, Option.bind_none]
  cases kind with
  | serverName =>
    simp only [Line.read, Line.oneField?, Option.bind_eq_bind, hfields, Option.map_none]
  | rewriteEngine =>
    simp only [Line.read, Line.switch?, Option.bind_eq_bind, hfields, Option.map_none]
  | rewriteCond => simp only [Line.read, Line.twoFields?, Option.bind_eq_bind, hfields]
  | rewriteRule => simp only [Line.read, Line.twoFields?, Option.bind_eq_bind, hfields]
  | virtualHost => rfl
  | ifModule => rfl

/-- Only the name of its kind begins a directive. -/
theorem consume_of_behindName? (h : kind.behindName? s = none) :
    Directive.consume kind s = .ok (none, s) := by
  rw [behindName?] at h
  cases hkind : kind.block? with
  | none =>
    rw [hkind] at h
    rw [Directive.consume_of_line hkind, read_of_afterName? h]
  | some block =>
    rw [hkind] at h
    -- without the name of the block there is no marker of it
    have hmarker : Opening.ofBlock? block s = none := by
      cases kind with
      | virtualHost =>
        obtain rfl := Option.some.inj hkind
        simp only [Opening.ofBlock?, Opening.virtualHost?, Option.bind_eq_bind]
        exact Option.bind_eq_none_iff.2 fun a ha => absurd (h.symm.trans ha) (by simp)
      | ifModule =>
        obtain rfl := Option.some.inj hkind
        simp only [Opening.ofBlock?, Opening.ifModule?, Option.bind_eq_bind]
        exact Option.bind_eq_none_iff.2 fun a ha => absurd (h.symm.trans ha) (by simp)
      | _ => simp [block?] at hkind
    rw [Directive.consume_of_block hkind, hmarker]

end DirectiveKind

namespace MainContext

/-- A line is ignored as a whole if no directive is taken off the text at any of its characters in
front of the first number sign: the lines behind it are read, or cannot be read, as if they stood
alone. What the first word of the line is does not matter. Nothing is taken off where no name of a
directive stands with a gap behind it. -/
theorem read_passed_line :
    (∀ l t : Text, '\n' ∉ l →
      (∀ p s, l = p ++ s → s ≠ [] → '#' ∉ p → ∀ kind ∈ Opening.main.permitted,
        Directive.consume kind (s ++ '\n' :: t) = .ok (none, s ++ '\n' :: t)) →
      read (l ++ '\n' :: t) = read t) ∧
    ∀ l t : Text, '\n' ∉ l →
      (∀ p s, l = p ++ s → '#' ∉ p → ∀ kind : DirectiveKind, kind.behindName? s = none) →
      read (l ++ '\n' :: t) = read t := by
  refine ⟨fun l t hl hnone => read_line_of_passes hl (Opening.passes_main hnone),
    fun l t hl hname => ?_⟩
  refine read_line_of_passes hl (Opening.passes_main fun p s heq _ hp kind _ => ?_)
  exact DirectiveKind.consume_of_behindName?
    (DirectiveKind.behindName?_append_break (hname p s heq hp kind) t)

/-- The name of a directive in a comment behind a foreign one. -/
theorem read_passed_line_comment :
    read "Listen 8080 # RewriteEngine on\nRewriteEngine off\n".toList =
      read "RewriteEngine off\n".toList := by
  refine read_passed_line.2 "Listen 8080 # RewriteEngine on".toList "RewriteEngine off\n".toList
    (by decide) ?_
  intro p s heq hp kind
  have hnames : ∀ n ≤ 30, '#' ∉ "Listen 8080 # RewriteEngine on".toList.take n →
    ∀ kind ∈ Opening.main.permitted,
      kind.behindName? ("Listen 8080 # RewriteEngine on".toList.drop n) = none := by decide +kernel
  have hlength : 30 = p.length + s.length := by simpa using congrArg List.length heq
  have htake : "Listen 8080 # RewriteEngine on".toList.take p.length = p := by
    rw [heq, List.take_left]
  have hdrop : "Listen 8080 # RewriteEngine on".toList.drop p.length = s := by
    rw [heq, List.drop_left]
  have hkind : kind ∈ Opening.main.permitted := by cases kind <;> decide
  exact hdrop ▸ hnames p.length (by omega) (htake.symm ▸ hp) kind hkind

/-- A line whose first word is foreign and which switches the engine on all the same. -/
theorem read_name_inside_line :
    '\n' ∉ "DocumentRoot RewriteEngine on".toList ∧
      (Text.words "DocumentRoot RewriteEngine on".toList).head? = some "DocumentRoot".toList ∧
      (∀ kind ∈ Line.kinds, Text.isKeyword kind.name.toList "DocumentRoot".toList = false) ∧
      (read ("DocumentRoot RewriteEngine on".toList ++ '\n' :: [])).map engineOn = .ok true ∧
      (read []).map engineOn = .ok false := by
  have hword : Layout.Line (.rewriteEngine true) "RewriteEngine on".toList :=
    @Layout.Line.mk _ [] "RewriteEngine on".toList [] (by decide)
      (@Layout.Written.rewriteEngine "RewriteEngine".toList " ".toList "on".toList true (by decide)
        (by decide) (by decide)) (by decide)
  -- no part of the line in front of the name is a name itself, so that it is passed over
  have hnames : ∀ s ∈ "DocumentRoot ".toList.tails, s ≠ [] → ∀ kind ∈ Opening.main.permitted,
      kind.behindName? (s ++ "RewriteEngine on\n".toList) = none := by decide +kernel
  have hpasses : Opening.main.Passes "DocumentRoot ".toList "RewriteEngine on\n".toList := by
    refine Opening.passes_main fun p s heq hs _ kind hkind => ?_
    exact DirectiveKind.consume_of_behindName?
      (hnames s ((List.mem_tails _ _).2 ⟨p, heq.symm⟩) hs kind hkind)
  have hread :
      read ("DocumentRoot ".toList ++ "RewriteEngine on\n".toList) =
        .ok ⟨[.rewriteEngine true]⟩ := by
    have hrun := Reader.run_line hword (.feed []) ⟨.main, [], []⟩ []
    have hend : Reader.runAll ⟨.main, [], [.rewriteEngine true]⟩ [] =
        .ok (⟨.main, [], [.rewriteEngine true]⟩, []) := Reader.runAll_eq_turn _ _
    rw [read_eq [], Reader.runAll_append_of_passes (f := ⟨.main, [], []⟩) (by decide) hpasses]
    exact congrArg (Except.map _) (hrun.trans hend)
  have hnothing : read [] = .ok ⟨[]⟩ := by
    rw [read_eq [], Reader.runAll_eq_turn]
    rfl
  refine ⟨by decide, by decide, by decide, ?_, ?_⟩
  · exact congrArg (Except.map engineOn) hread
  · rw [hnothing]
    rfl

end MainContext

end UrlRewrite
