import UrlRewrite.Bindings
import UrlRewrite.Text.Percent

/-!
# Pieces of templates

A template is a text with references in it: `$1` and `%1` for the groups of the last matching rule
and condition, `${table:key|default}` for an entry of a lookup table, `%{ENV:name}` for a variable
that a rule has set and `%{NAME}` for a server variable.

This module holds the pieces that a template consists of, and their rendering. What is not bound
renders as nothing. Values of groups can be escaped on the way; a key is never escaped, because it
is looked up.
-/

namespace UrlRewrite

/-- A piece of a template. -/
inductive Piece where
  | literal (c : Char)
  | group (kind : GroupKind) (index : Nat)
  | entry (table : Text) (key : List Piece) (default : Option (List Piece))
  | server (v : ServerVariable)
  | env (name : Text)
deriving Repr

namespace Piece

mutual

/-- The text of a piece; with `escape`, values of groups are escaped. -/
def render (b : Bindings) (escape : Bool) : Piece → Text
  | .literal c => [c]
  | .group kind index =>
    let value := (b.get? (.group kind index)).getD []
    if escape then Text.escapeValue value else value
  | .entry table key default =>
    match b.get? (.entry table (renderAll b false key)) with
    | some value => value
    | none => renderDefault b escape default
  | .server v => (b.server? v).getD []
  | .env name => (b.get? (.env name)).getD []

/-- The texts of pieces, one behind the other. -/
def renderAll (b : Bindings) (escape : Bool) : List Piece → Text
  | [] => []
  | piece :: pieces => render b escape piece ++ renderAll b escape pieces

/-- The text of a default; nothing if there is none. -/
def renderDefault (b : Bindings) (escape : Bool) : Option (List Piece) → Text
  | none => []
  | some pieces => renderAll b escape pieces

end

/-- Pieces are rendered one behind the other. -/
@[simp] theorem renderAll_append (b : Bindings) (escape : Bool) (ps qs : List Piece) :
    renderAll b escape (ps ++ qs) = renderAll b escape ps ++ renderAll b escape qs := by
  induction ps with
  | nil => simp [renderAll]
  | cons p ps ih => simp [renderAll, ih]

/-- Characters render as themselves. -/
theorem renderAll_map_literal (b : Bindings) (escape : Bool) (s : Text) :
    renderAll b escape (s.map .literal) = s := by
  induction s with
  | nil => rfl
  | cons c s ih => rw [List.map_cons, renderAll, ih, render, List.singleton_append]

end Piece

end UrlRewrite
