import UrlRewrite.Proofs.Run.Redirect
import UrlRewrite.Proofs.Template.Delimiters

/-!
# Captured text in the target of a rule

A rule can put text that a request has brought along into the path and the query that it makes. With
the flag that escapes the values of groups, such text stays where the substitution puts it: the
parts of the target, down to the parameters of its query, are the parts of the substitution,
whatever has been captured. This holds of substitutions that consist of literals and of groups. An
entry of a table and a variable are not escaped.

`Rule.Confines` says it for one choice of bindings. `Rule.confines_captured` says that every rule of
this kind does so on all bindings, that hence no two of them can be told apart by the delimiters of
a target, and what this means for the path and the query that applying the rule leaves.
-/

namespace UrlRewrite.Rule

/-- **Captured text is confined** when the rule makes a target of the substitution `t` on the
bindings `b`. -/
structure Confines (r : Rule) (t : Template) (b : Bindings) : Prop where
  /-- The target is cut into path and query at the first literal question mark of the
  substitution. -/
  target : ∀ path, r.target path b =
    (Piece.renderAll b true (Piece.cutAt '?' t.pieces).1,
      (Piece.cutAt '?' t.pieces).2.map (Piece.renderAll b true))
  /-- The delimiters of the whole target are those of the literals, in their order. -/
  order : delimitersOf (t.render b (r.has .escapeGroups)) = delimitersOf (Piece.literals t.pieces)
  /-- So each is there as often as among the literals. -/
  count :
    ∀ c ∈ delimiters, (t.render b (r.has .escapeGroups)).count c = (Piece.literals t.pieces).count c
  /-- Whatever part of the target is divided by a delimiter, it is divided where its pieces are: a
  path into segments, a query into parameters, a parameter into its name and its value. -/
  parts : ∀ ps ⊆ t.pieces, ∀ c ∈ delimiters,
    (Piece.renderAll b true ps).splitAll c =
      (ps.splitOnP (Piece.isLiteral c)).map (Piece.renderAll b true)
  /-- The path of a redirect consists of literals that are escaped for this, and of values that are
  escaped as values and no further. -/
  redirect : ∀ path effects, effects.any isRedirect = true → r.has .noEscape = false →
    (r.rewrite path effects b).1.path = (Piece.cutAt '?' t.pieces).1.flatMap (Piece.renderOnce b)

variable {r : Rule} {t : Template}

section Captured

variable (hsub : r.substitution = some t) (hescape : r.has .escapeGroups = true)
  (hpieces : ∀ p ∈ t.pieces, p.IsLiteralOrGroup)

include hsub hescape hpieces

theorem target_of_literalOrGroup (path : Text) (b : Bindings) :
    r.target path b =
      (Piece.renderAll b true (Piece.cutAt '?' t.pieces).1,
        (Piece.cutAt '?' t.pieces).2.map (Piece.renderAll b true)) := by
  rw [target_of_substitution hsub, hescape, Template.render,
    Piece.splitFirst_renderAll hpieces (by decide)]
  cases hcut : (Piece.cutAt '?' t.pieces).2 with
  | none =>
    -- without a question mark, all of the substitution is the path
    rw [Piece.fst_cutAt_of_none hcut]
    rfl
  | some behind => rfl

theorem confines (b : Bindings) : r.Confines t b where
  target path := target_of_literalOrGroup hsub hescape hpieces path b
  order := by
    rw [hescape, Template.render]
    exact Piece.delimitersOf_renderAll hpieces
  count c hc := by
    rw [hescape, Template.render]
    exact Piece.count_renderAll hpieces hc
  parts ps hps c hc := Piece.splitAll_renderAll (fun p hp => hpieces p (hps hp)) hc
  redirect path effects hredirect hnoEscape := by
    have hfront : ∀ p ∈ (Piece.cutAt '?' t.pieces).1, p.IsLiteralOrGroup :=
      fun p hp => hpieces p (Piece.fst_cutAt_subset '?' t.pieces hp)
    rw [path_rewrite_of_redirect hredirect hnoEscape, target_of_literalOrGroup hsub hescape hpieces]
    exact Piece.escapeRedirect_renderAll hfront

/-- The delimiters of path and query are those of the literals that they are made of. -/
theorem delimitersOf_target (path : Text) (b : Bindings) :
    delimitersOf (r.target path b).1 = delimitersOf (Piece.literals (Piece.cutAt '?' t.pieces).1) ∧
      (r.target path b).2.map delimitersOf =
        (Piece.cutAt '?' t.pieces).2.map fun behind => delimitersOf (Piece.literals behind) := by
  rw [target_of_literalOrGroup hsub hescape hpieces]
  constructor
  · exact Piece.delimitersOf_renderAll fun p hp =>
      hpieces p (Piece.fst_cutAt_subset '?' t.pieces hp)
  · cases hcut : (Piece.cutAt '?' t.pieces).2 with
    | none => rfl
    | some behind =>
      have hbehind := Piece.snd_cutAt_subset hcut
      exact congrArg some (Piece.delimitersOf_renderAll fun p hp => hpieces p (hbehind hp))

end Captured

/-- **Captured text stays in its place.** A rule that escapes the values of groups, and whose
substitution consists of literals and groups, confines what has been captured on all bindings. On
any two of them its targets have the same delimiters, in the path and in the query. Where the rule
is applied and matches, the path that it leaves is made of the pieces in front of the first literal
question mark, and the query that it brings of those behind it. -/
theorem confines_captured (r : Rule) (t : Template) (hsub : r.substitution = some t)
    (hescape : r.has .escapeGroups = true) (hpieces : ∀ p ∈ t.pieces, p.IsLiteralOrGroup) :
    (∀ b, r.Confines t b) ∧
      (∀ (path path' : Text) (b b' : Bindings),
        delimitersOf (r.target path b).1 = delimitersOf (r.target path' b').1 ∧
          (r.target path b).2.map delimitersOf = (r.target path' b').2.map delimitersOf) ∧
      ∀ a : Application, a.rule = r → a.matched = true →
        a.path =
          (if a.effects.any isRedirect && !r.has .noEscape then
            (Piece.cutAt '?' t.pieces).1.flatMap (Piece.renderOnce a.tested)
          else Piece.renderAll a.tested true (Piece.cutAt '?' t.pieces).1) ∧
        a.after.query =
          r.reconcile ((Piece.cutAt '?' t.pieces).2.map (Piece.renderAll a.tested true))
            a.before.bindings.query := by
  refine ⟨confines hsub hescape hpieces, fun path path' b b' => ?_, ?_⟩
  · -- both sides have the delimiters that are written in the template
    obtain ⟨hpath, hquery⟩ := delimitersOf_target hsub hescape hpieces path b
    obtain ⟨hpath', hquery'⟩ := delimitersOf_target hsub hescape hpieces path' b'
    exact ⟨hpath.trans hpath'.symm, hquery.trans hquery'.symm⟩
  · rintro a rfl hm
    -- the path of a redirect is escaped once more, its query is not
    have htarget := target_of_literalOrGroup hsub hescape hpieces a.before.path a.tested
    refine ⟨?_, by rw [Application.query_after hm, htarget]⟩
    rw [Application.path_of_matched hm]
    split
    · rename_i hredirect
      rw [Bool.and_eq_true, Bool.not_eq_true'] at hredirect
      exact (confines hsub hescape hpieces a.tested).redirect _ _ hredirect.1 hredirect.2
    · rename_i hredirect
      rw [rewrite, if_neg hredirect, htarget]

/-- Delimiters and a percent sign that have been captured, in the path and in the query of a
redirect. -/
theorem confines_captured_redirect :
    ∃ r t, build "^/(.*)".toList "/<$1>?q=$1".toList "B,R".toList = .ok r ∧
      r.substitution = some t ∧
      r.has .escapeGroups = true ∧ (∀ p ∈ t.pieces, p.IsLiteralOrGroup) ∧
      r.target [] (Bindings.empty.set (.group .rule 1) "/?&=#%".toList) =
        ("/<%2F%3F%26%3D%23%25>".toList, some "q=%2F%3F%26%3D%23%25".toList) ∧
      (r.rewrite [] [.redirect 302] (Bindings.empty.set (.group .rule 1) "/?&=#%".toList)).1.path =
        "/%3C%2F%3F%26%3D%23%25%3E".toList := by
  generalize hb : Bindings.empty.set (.group .rule 1) "/?&=#%".toList = b
  have hread : ((build "^/(.*)".toList "/<$1>?q=$1".toList "B,R".toList).toOption.bind fun r =>
      r.substitution.map fun t => decide (r.has .escapeGroups = true ∧ r.has .noEscape = false ∧
        (∀ p ∈ t.pieces, p.IsLiteralOrGroup) ∧
        Piece.renderAll b true (Piece.cutAt '?' t.pieces).1 = "/<%2F%3F%26%3D%23%25>".toList ∧
        (Piece.cutAt '?' t.pieces).2.map (Piece.renderAll b true) =
        some "q=%2F%3F%26%3D%23%25".toList ∧
        (Piece.cutAt '?' t.pieces).1.flatMap (Piece.renderOnce b) =
        "/%3C%2F%3F%26%3D%23%25%3E".toList)) =
      some true := by
    subst hb
    decide +kernel
  obtain ⟨r, hr, hread⟩ := Option.bind_eq_some_iff.1 hread
  obtain ⟨t, hsub, hfacts⟩ := Option.map_eq_some_iff.1 hread
  obtain ⟨hescape, hnoEscape, hpieces, hfront, hbehind, hpath⟩ := of_decide_eq_true hfacts
  have hconfines := (confines_captured r t hsub hescape hpieces).1 b
  refine ⟨r, t, eq_ok_of_toOption hr, hsub, hescape, hpieces, ?_, ?_⟩
  · rw [hconfines.target, hfront, hbehind]
  · rw [hconfines.redirect [] [.redirect 302] rfl hnoEscape, hpath]

end UrlRewrite.Rule
