import UrlRewrite.Proofs.Text.Percent
import UrlRewrite.Template.Basic

/-!
# Delimiters in templates with escaped groups

A slash, a question mark, an ampersand, an equals sign and a number sign divide a URI into its
parts. A template whose values of groups are escaped has these **delimiters** where its literals put
them, and nowhere else: no value contributes one, whatever it is (`Piece.not_mem_render_group`).

So cutting the text of pieces at a delimiter is the same as cutting the pieces at the literals of
that delimiter and rendering the parts. This is said of the first delimiter
(`Piece.splitFirst_renderAll`) and of all of them (`Piece.splitAll_renderAll`). What is left of a
text when all else is taken away, its delimiters in their order, does not depend on the bindings at
all (`Piece.delimitersOf_renderAll`).

The target of a redirect is escaped once more, and then a literal is escaped and a value is not
(`Piece.escapeRedirect_renderAll`).
-/

namespace UrlRewrite

/-- The characters that divide a URI into its parts. -/
def delimiters : List Char := ['/', '?', '&', '=', '#']

/-- The delimiters of a text, in their order. -/
def delimitersOf (s : Text) : Text := s.filter (· ∈ delimiters)

namespace Text

/-- Escaped text has no delimiters. -/
theorem not_mem_escapeValue {c : Char} (hc : c ∈ delimiters) (s : Text) : c ∉ escapeValue s := by
  have hall : delimiters.all (fun c => !decide (c = '%' ∨ c.isAlphanum = true)) = true := by decide
  have hother := List.all_eq_true.1 hall c hc
  rw [Bool.not_eq_true', decide_eq_false_iff_not] at hother
  exact fun hmem => hother (isAlphanum_of_mem_escapeValue hmem)

end Text

namespace Piece

/-! ### Pieces and their literals -/

/-- A literal, or a reference to a group of a match. -/
def IsLiteralOrGroup : Piece → Prop
  | .literal _ => True
  | .group _ _ => True
  | _ => False

instance : DecidablePred IsLiteralOrGroup
  | .literal _ => .isTrue trivial
  | .group _ _ => .isTrue trivial
  | .entry _ _ _ => .isFalse id
  | .server _ => .isFalse id
  | .env _ => .isFalse id

/-- The piece is this character. -/
def isLiteral (c : Char) : Piece → Bool
  | .literal d => d == c
  | _ => false

/-- The character that a piece stands for as it is. -/
def literal? : Piece → Option Char
  | .literal c => some c
  | _ => none

/-- The literals among pieces. -/
def literals (ps : List Piece) : Text := ps.filterMap literal?

/-- The pieces in front of the first literal `c`, and those behind it if there is one. -/
def cutAt (c : Char) (ps : List Piece) : List Piece × Option (List Piece) :=
  (ps.takeWhile (!·.isLiteral c), (ps.dropWhile (!·.isLiteral c)).tail?)

/-- The text of a piece in the target of a redirect: a literal is escaped as the target is, a value
as a value. -/
def renderOnce (b : Bindings) : Piece → Text
  | .literal c => Text.escapeRedirect [c]
  | p => p.render b true

variable {b : Bindings} {c : Char} {p : Piece} {ps : List Piece}

theorem eq_literal_of_isLiteral (h : p.isLiteral c = true) : p = .literal c := by
  cases p with
  | literal d => rw [eq_of_beq h]
  | _ => cases h

/-- Pieces are cut at the first literal that is the character. -/
theorem cutAt_cons_of_isLiteral (h : p.isLiteral c = true) (ps : List Piece) :
    cutAt c (p :: ps) = ([], some ps) := by
  simp [cutAt, h]

theorem cutAt_cons_of_not_isLiteral (h : p.isLiteral c = false) (ps : List Piece) :
    cutAt c (p :: ps) = (p :: (cutAt c ps).1, (cutAt c ps).2) := by
  simp [cutAt, h]

/-- What is in front of the cut comes from the pieces. -/
theorem fst_cutAt_subset (c : Char) (ps : List Piece) : (cutAt c ps).1 ⊆ ps :=
  List.takeWhile_subset _

theorem snd_cutAt_subset {behind : List Piece} (h : (cutAt c ps).2 = some behind) :
    behind ⊆ ps := by
  have hrest : ps.dropWhile (!·.isLiteral c) ⊆ ps := List.dropWhile_subset _
  cases hdrop : ps.dropWhile (!·.isLiteral c) with
  | nil => simp [cutAt, hdrop] at h
  | cons p rest =>
    obtain rfl : rest = behind := by simpa [cutAt, hdrop] using h
    rw [hdrop] at hrest
    exact List.subset_of_cons_subset hrest

/-- The front is all there is, if there is nothing behind a delimiter. -/
theorem fst_cutAt_of_none (h : (cutAt c ps).2 = none) : (cutAt c ps).1 = ps := by
  induction ps with
  | nil => rfl
  | cons p ps ih =>
    cases hliteral : p.isLiteral c with
    | true => rw [cutAt_cons_of_isLiteral hliteral] at h; cases h
    | false =>
      rw [cutAt_cons_of_not_isLiteral hliteral] at h ⊢
      rw [ih h]

/-! ### Delimiters come from literals -/

/-- **No value contributes a delimiter.** -/
theorem not_mem_render_group (hc : c ∈ delimiters) (kind : GroupKind) (index : Nat) (b : Bindings) :
    c ∉ (group kind index).render b true := by
  rw [render]
  exact Text.not_mem_escapeValue hc _

/-- A piece other than the literal of a delimiter does not render to a text with this delimiter. -/
theorem not_mem_render (hc : c ∈ delimiters) (hp : p.IsLiteralOrGroup)
    (hne : p.isLiteral c = false) :
    c ∉ p.render b true := by
  cases p with
  | literal d =>
    have hd : d ≠ c := by simpa [isLiteral] using hne
    rw [render, List.mem_singleton]
    exact Ne.symm hd
  | group kind index => exact not_mem_render_group hc kind index b
  | _ => exact hp.elim

/-- With escaped groups, the delimiters of a rendered piece are those it is written with. -/
theorem delimitersOf_render (hp : p.IsLiteralOrGroup) :
    delimitersOf (p.render b true) = delimitersOf p.literal?.toList := by
  cases p with
  | literal d => rfl
  | group kind index =>
    rw [delimitersOf, List.filter_eq_nil_iff.2]
    · rfl
    · intro d hd hdelimiter
      exact not_mem_render_group (by simpa using hdelimiter) kind index b hd
  | _ => exact hp.elim

/-- **The delimiters of a text are those of its literals**, in their order. -/
theorem delimitersOf_renderAll (hps : ∀ p ∈ ps, p.IsLiteralOrGroup) :
    delimitersOf (renderAll b true ps) = delimitersOf (literals ps) := by
  induction ps with
  | nil => rfl
  | cons p ps ih =>
    obtain ⟨hp, hps⟩ := List.forall_mem_cons.1 hps
    have hliterals : literals (p :: ps) = p.literal?.toList ++ literals ps := by
      rw [literals, List.filterMap_cons]
      cases p.literal? <;> rfl
    have hboth := delimitersOf_render (b := b) hp
    simp only [delimitersOf] at hboth ih ⊢
    rw [renderAll, hliterals, List.filter_append, List.filter_append, hboth, ih hps]

/-- How often a delimiter stands in a text can be told by its delimiters. -/
theorem count_delimitersOf (hc : c ∈ delimiters) (s : Text) :
    (delimitersOf s).count c = s.count c :=
  List.count_filter (by simpa using hc)

/-- Each delimiter is there as often as among the literals. -/
theorem count_renderAll (hps : ∀ p ∈ ps, p.IsLiteralOrGroup) (hc : c ∈ delimiters) :
    (renderAll b true ps).count c = (literals ps).count c := by
  rw [← count_delimitersOf hc, delimitersOf_renderAll hps, count_delimitersOf hc]

/-! ### Cutting and rendering -/

/-- The text of pieces is cut at its first delimiter where the pieces are. -/
theorem splitFirst_renderAll (hps : ∀ p ∈ ps, p.IsLiteralOrGroup) (hc : c ∈ delimiters) :
    (renderAll b true ps).splitFirst c =
      (cutAt c ps).2.map fun behind =>
        (renderAll b true (cutAt c ps).1, renderAll b true behind) := by
  induction ps with
  | nil => rfl
  | cons p ps ih =>
    obtain ⟨hp, hps⟩ := List.forall_mem_cons.1 hps
    rw [renderAll]
    cases hliteral : p.isLiteral c with
    | true =>
      obtain rfl := eq_literal_of_isLiteral hliteral
      rw [cutAt_cons_of_isLiteral hliteral, render]
      exact Text.splitFirst_append (List.not_mem_nil) _
    | false =>
      -- the first piece goes to the front, and what follows decides
      rw [Text.splitFirst_append_of_not_mem (not_mem_render hc hp hliteral), ih hps,
        cutAt_cons_of_not_isLiteral hliteral, Option.map_map]
      rfl

/-- The text of pieces is cut at all delimiters of a kind where the pieces are. -/
theorem splitAll_renderAll (hps : ∀ p ∈ ps, p.IsLiteralOrGroup) (hc : c ∈ delimiters) :
    (renderAll b true ps).splitAll c = (ps.splitOnP (isLiteral c)).map (renderAll b true) := by
  induction ps with
  | nil => rfl
  | cons p ps ih =>
    obtain ⟨hp, hrest⟩ := List.forall_mem_cons.1 hps
    rw [renderAll, List.splitOnP_cons_eq_if_modifyHead]
    cases hliteral : p.isLiteral c with
    | true =>
      obtain rfl := eq_literal_of_isLiteral hliteral
      rw [render, List.singleton_append, Text.splitAll, if_pos rfl, ih hrest]
      rfl
    | false =>
      rw [Text.splitAll_append_of_not_mem (not_mem_render hc hp hliteral), ih hrest,
        if_neg Bool.false_ne_true]
      -- both sides put the first piece in front of the first part
      cases ps.splitOnP (isLiteral c) <;> rfl

/-! ### Redirects -/

/-- **In the target of a redirect nothing is escaped twice**: the literals are escaped there, and
the values have been. -/
theorem escapeRedirect_renderAll (hps : ∀ p ∈ ps, p.IsLiteralOrGroup) :
    Text.escapeRedirect (renderAll b true ps) = ps.flatMap (renderOnce b) := by
  induction ps with
  | nil => rfl
  | cons p ps ih =>
    obtain ⟨hp, hps⟩ := List.forall_mem_cons.1 hps
    have hone : Text.escapeRedirect (p.render b true) = renderOnce b p := by
      cases p with
      | literal d => rfl
      | group kind index => exact Text.escapeRedirect_escapeValue _
      | _ => exact hp.elim
    calc Text.escapeRedirect (renderAll b true (p :: ps))
        = Text.escapeRedirect (p.render b true) ++ Text.escapeRedirect (renderAll b true ps) :=
          Text.percentEscape_append _ _ _
      _ = (p :: ps).flatMap (renderOnce b) := by rw [hone, ih hps, List.flatMap_cons]

end Piece

end UrlRewrite
