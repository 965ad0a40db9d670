import UrlRewrite.Template.Reader

/-!
# Server variables in templates

A template can refer to a server variable anywhere, also in the key and in the default of an entry.
`Piece.fillAll` puts a text in place of all these references.

`Piece.renderAll_fillAll` says that a template renders as before if the text is what is bound to the
variable. So this is what all the references render as, wherever they stand: neither the key of an
entry nor its default is rendered with other bindings than the entry.
-/

namespace UrlRewrite.Piece

mutual

/-- A piece with a text in place of the references to a server variable. -/
def fill (v : ServerVariable) (value : Text) : Piece → List Piece
  | .server w => if w = v then value.map .literal else [.server w]
  | .entry table key default => [.entry table (fillAll v value key) (fillDefault v value default)]
  | p => [p]

/-- Pieces with a text in place of all references to a server variable. -/
def fillAll (v : ServerVariable) (value : Text) : List Piece → List Piece
  | [] => []
  | p :: ps => fill v value p ++ fillAll v value ps

/-- The default of an entry with a text in place of all references to a server variable. -/
def fillDefault (v : ServerVariable) (value : Text) : Option (List Piece) → Option (List Piece)
  | none => none
  | some ps => some (fillAll v value ps)

end

variable {b : Bindings} {v : ServerVariable} {value : Text}

theorem renderAll_singleton (escape : Bool) (p : Piece) :
    renderAll b escape [p] = render b escape p := by
  rw [renderAll, renderAll, List.append_nil]

mutual

theorem renderAll_fill (hv : b.server? v = some value) (escape : Bool) :
    ∀ p : Piece, renderAll b escape (fill v value p) = render b escape p
  | .server w => by
    rw [fill, render]
    split
    · rename_i hw
      rw [renderAll_map_literal, hw, hv, Option.getD_some]
    · rw [renderAll_singleton, render]
  | .entry table key default => by
    -- the key renders as before, so that it finds the same entry
    rw [fill, renderAll_singleton, render, render, renderAll_fillAll hv false key,
      renderDefault_fillDefault hv escape default]
  | .literal _ | .group _ _ | .env _ => by
    simp only [fill, renderAll_singleton]

/-- **References to a server variable render as its value**, wherever they stand. -/
theorem renderAll_fillAll (hv : b.server? v = some value) (escape : Bool) :
    ∀ ps : List Piece, renderAll b escape (fillAll v value ps) = renderAll b escape ps
  | [] => rfl
  | p :: ps => by
    rw [fillAll, renderAll_append, renderAll_fill hv escape p, renderAll_fillAll hv escape ps,
      renderAll]

theorem renderDefault_fillDefault (hv : b.server? v = some value) (escape : Bool) :
    ∀ default : Option (List Piece),
      renderDefault b escape (fillDefault v value default) = renderDefault b escape default
  | none => rfl
  | some ps => by rw [fillDefault, renderDefault, renderDefault, renderAll_fillAll hv escape ps]

end

end UrlRewrite.Piece
