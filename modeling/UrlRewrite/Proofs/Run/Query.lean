import Mathlib.Data.List.TakeWhile
import UrlRewrite.Proofs.Run.Redirect

/-!
# The query along a sequence of rules

Each rule that matches replaces the query at hand, puts what its substitution brings in front of it,
or discards it. This module says what is left of it all behind any number of rules, without going
through them one by one:

* a rule **brings** the query that its substitution renders to (`Application.brought`), if it
  renders to one;
* a rule **resets** the query if nothing of the one at hand is left behind it
  (`Application.resets`);
* `Application.standing` are the texts that count in the end, which are those brought since the last
  reset.

The applications are in succession (`Application.Successive`), each with the bindings that the one
before it has left. The main statement is `Application.query_standing`: the query is made of the
standing texts, with an ampersand between any two that are not empty. It comes from one equation for
the last application, `Application.query_after_eq`, in which the query at hand is one text more to
be joined unless the rule resets it.

An ampersand separates parameters. Joining adds none but between texts that are not empty, so the
parameters of the query are those of the standing texts, one text after the other
(`parameters_joinQueries`).
-/

namespace UrlRewrite

/-! ### Queries and their parameters -/

/-- The query of several ones, which are put together with ampersands. Those that are empty are left
out. -/
def joinQueries (queries : List Text) : Text := Text.joinWith ['&'] (queries.filter (!·.isEmpty))

/-- The parameters of a query; an empty query has none. -/
def parameters (query : Text) : List Text := if query.isEmpty then [] else query.splitAll '&'

/-- Joining is appending, text by text. -/
theorem joinQueries_cons (query : Text) (queries : List Text) :
    joinQueries (query :: queries) = appendQuery query (joinQueries queries) := by
  cases query with
  | nil => simp [joinQueries, appendQuery]
  | cons c query =>
    have hkept :
        ((c :: query) :: queries).filter (!·.isEmpty) =
          (c :: query) :: queries.filter (!·.isEmpty) :=
      List.filter_cons_of_pos (by simp)
    rw [joinQueries, hkept, joinQueries, appendQuery]
    cases hrest : queries.filter (!·.isEmpty) with
    | nil => simp [Text.joinWith]
    | cons next rest =>
      -- what has been kept is not empty, and neither is what it is joined to
      have hnext : next ≠ [] := by
        have hmem : next ∈ queries.filter (!·.isEmpty) := hrest ▸ List.mem_cons_self
        simpa using (List.mem_filter.1 hmem).2
      have hjoined : (Text.joinWith ['&'] (next :: rest)).isEmpty = false := by
        cases rest <;> simp [Text.joinWith, hnext]
      simp [Text.joinWith, hjoined]

@[simp] theorem joinQueries_nil : joinQueries [] = [] := rfl

@[simp] theorem joinQueries_singleton (query : Text) : joinQueries [query] = query := by
  rw [joinQueries_cons, joinQueries_nil, appendQuery]
  cases query <;> rfl

/-- It does not matter whether the last queries have been joined before. -/
theorem joinQueries_append_singleton (queries rest : List Text) :
    joinQueries (queries ++ [joinQueries rest]) = joinQueries (queries ++ rest) := by
  induction queries with
  | nil => rw [List.nil_append, List.nil_append, joinQueries_singleton]
  | cons query queries ih =>
    rw [List.cons_append, List.cons_append, joinQueries_cons, joinQueries_cons, ih]

/-- The parameters of two queries in one are those of both. -/
theorem parameters_appendQuery (first second : Text) :
    parameters (appendQuery first second) = parameters first ++ parameters second := by
  cases first with
  | nil => simp [appendQuery, parameters]
  | cons c first =>
    cases second with
    | nil => simp [appendQuery, parameters]
    | cons d second =>
      have hfirst : (c :: first).isEmpty = false := rfl
      have hsecond : (d :: second).isEmpty = false := rfl
      have hboth : (c :: first ++ '&' :: d :: second).isEmpty = false := rfl
      simp only [appendQuery, parameters, hfirst, hsecond, hboth, Bool.false_eq_true, if_false]
      exact Text.splitAll_append_cons '&' (c :: first) (d :: second)

/-- **Joining loses no parameter and adds none.** -/
theorem parameters_joinQueries (queries : List Text) :
    parameters (joinQueries queries) = queries.flatMap parameters := by
  induction queries with
  | nil => rfl
  | cons query queries ih => rw [joinQueries_cons, parameters_appendQuery, ih, List.flatMap_cons]

namespace Application

/-! ### What one rule does to the query -/

/-- The query that the substitution brings: what it renders to behind the first question mark. -/
def brought (a : Application) : Option Text :=
  a.rule.substitution.bind fun t =>
    ((t.render a.tested (a.rule.has .escapeGroups)).splitFirst '?').map Prod.snd

/-- Whether nothing is left of the query at hand: the rule discards it, or brings another one and
does not append the one at hand to it. -/
def resets (a : Application) : Bool :=
  a.rule.has .discardQuery || (a.brought.isSome && !a.rule.has .appendQuery)

/-- The query of a target is the one that the application brings. -/
theorem snd_target (a : Application) (path : Text) :
    (a.rule.target path a.tested).2 = a.brought := by
  rw [brought]
  cases hsub : a.rule.substitution with
  | none => rw [Rule.target, hsub, Option.bind_none]
  | some t =>
    rw [Rule.target_of_substitution hsub, Option.bind_some]
    cases (t.render a.tested (a.rule.has .escapeGroups)).splitFirst '?' <;> rfl

/-- **The query behind a rule that matches** is what the rule brings and, unless the rule resets it,
the query at hand. -/
theorem query_after_eq {a : Application} (hm : a.matched = true) :
    a.after.query =
      joinQueries (a.brought.toList ++ if a.resets then [] else [a.before.bindings.query]) := by
  rw [query_after hm, snd_target, Rule.reconcile.eq_def, resets]
  cases a.brought with
  | none =>
    -- without a query brought, the one at hand is discarded or kept
    cases a.rule.has .discardQuery <;> simp
  | some query =>
    have hpair :
        joinQueries [query, a.before.bindings.query] =
          appendQuery query a.before.bindings.query := by
      rw [joinQueries_cons, joinQueries_singleton]
    have hempty : appendQuery query [] = query := by cases query <;> rfl
    cases a.rule.has .discardQuery <;> cases a.rule.has .appendQuery <;> simp [hpair, hempty]

/-! ### Sequences of rules -/

/-- The texts that a query is made of, latest first. These are what the last rule that resets it has
brought and what all rules behind that one have; if no rule resets it, these are what all rules have
brought, and the query at the beginning. -/
def standing (first : Text) (as : List Application) : List Text :=
  match as.reverse.dropWhile (!·.resets) with
  | [] => as.reverse.filterMap brought ++ [first]
  | m :: _ => (as.reverse.takeWhile (!·.resets) ++ [m]).filterMap brought

variable {b b' : Bindings} {as : List Application}

theorem standing_nil (first : Text) : standing first [] = [first] := rfl

/-- What a later rule brings stands in front, and alone if the rule resets the query. -/
theorem standing_concat (first : Text) (as : List Application) (a : Application) :
    standing first (as ++ [a]) =
      a.brought.toList ++ if a.resets then [] else standing first as := by
  rw [standing, List.reverse_append, List.reverse_singleton, List.singleton_append]
  cases hresets : a.resets with
  | true =>
    rw [List.dropWhile_cons_of_neg (by simp [hresets]),
      List.takeWhile_cons_of_neg (by simp [hresets])]
    cases hbrought : a.brought <;> simp [hbrought]
  | false =>
    rw [List.dropWhile_cons_of_pos (by simp [hresets]),
      List.takeWhile_cons_of_pos (by simp [hresets]), standing]
    split <;> cases hbrought : a.brought <;> simp [hbrought]

/-- Without a reset, all queries that have been brought stand in front of the first one, the latest
first. -/
theorem standing_of_not_resets (first : Text) (h : ∀ a ∈ as, a.resets = false) :
    standing first as = as.reverse.filterMap brought ++ [first] := by
  have hnone : as.reverse.dropWhile (!·.resets) = [] := by
    rw [List.dropWhile_eq_nil_iff]
    intro a ha
    rw [h a (List.mem_reverse.1 ha), Bool.not_false]
  rw [standing, hnone]

namespace Successive

/-- Rules that do not match leave the query, and the others make it of what is standing. -/
theorem query_eq (h : Successive b as b') :
    b'.query = joinQueries (standing b.query (as.filter matched)) := by
  induction h with
  | nil => rw [List.filter_nil, standing_nil, joinQueries_singleton]
  | @concat as a h ih =>
    rw [List.filter_append]
    cases hm : a.matched with
    | false =>
      rw [List.filter_cons_of_neg (by simp [hm]), List.filter_nil, List.append_nil, ← ih,
        Bindings.query, server?_of_not_matched hm, Bindings.query]
    | true =>
      rw [List.filter_cons_of_pos hm, List.filter_nil, standing_concat, query_after_eq hm, ih]
      split
      · rfl
      · -- the query at hand is joined to what is brought, and it has been joined itself
        rw [joinQueries_append_singleton]

end Successive

variable {b b' : Bindings} {as : List Application}

/-- **The query behind a sequence of rules.** It is made of the standing texts of the rules that
have matched. So its parameters are those of the standing texts, in their order, and if all the
rules append then nothing that has been there at the beginning or has been brought by a rule is lost
or comes twice. -/
theorem query_standing (b b' : Bindings) (as : List Application) (h : Successive b as b') :
    b'.query = joinQueries (standing b.query (as.filter matched)) ∧
      parameters b'.query = (standing b.query (as.filter matched)).flatMap parameters ∧
      ((∀ a ∈ as, a.matched = true → a.rule.has .appendQuery = true ∧
        a.rule.has .discardQuery = false) →
        parameters b'.query =
          ((as.filter matched).reverse.filterMap brought).flatMap parameters ++
          parameters b.query) := by
  have hquery := h.query_eq
  have hparameters :
      parameters b'.query = (standing b.query (as.filter matched)).flatMap parameters := by
    rw [hquery, parameters_joinQueries]
  refine ⟨hquery, hparameters, fun happend => ?_⟩
  -- a rule that appends and does not discard leaves what has been there
  have hkept : ∀ a ∈ as.filter matched, a.resets = false := by
    intro a ha
    obtain ⟨hmem, hm⟩ := List.mem_filter.1 ha
    obtain ⟨hqsa, hqsd⟩ := happend a hmem hm
    rw [resets, hqsa, hqsd, Bool.not_true, Bool.and_false, Bool.or_false]
  rw [hparameters, standing_of_not_resets b.query hkept, List.flatMap_append,
    List.flatMap_singleton]

/-- The second rule resets the query, so that what the first one has brought and kept counts no
more. -/
theorem query_standing_reset :
    ∃ site,
      Site.read
        ("RewriteEngine on\nRewriteRule ^ /a?x [QSA]\nRewriteRule ^ /b?y [QSD]\n" ++
          "RewriteRule ^ /c?z [QSA]").toList = .ok site ∧
      Successive
        (site.bindings { method := "GET".toList, uri := "/p?q=0".toList } ⟨2024, 3, 9, 7, 5, 1⟩)
        (site.history ⟨2024, 3, 9, 7, 5, 1⟩ { method := "GET".toList, uri := "/p?q=0".toList })
        (site.finalBindings ⟨2024, 3, 9, 7, 5, 1⟩
          { method := "GET".toList, uri := "/p?q=0".toList }) ∧
      joinQueries
        (standing
          (site.bindings { method := "GET".toList, uri := "/p?q=0".toList }
            ⟨2024, 3, 9, 7, 5, 1⟩).query
          ((site.history ⟨2024, 3, 9, 7, 5, 1⟩
            { method := "GET".toList, uri := "/p?q=0".toList }).filter matched)) =
        "z&y".toList := by
  generalize hr : ({ method := "GET".toList, uri := "/p?q=0".toList } : Request) = r
  have hread : ((Site.read
      ("RewriteEngine on\nRewriteRule ^ /a?x [QSA]\nRewriteRule ^ /b?y [QSD]\n" ++
        "RewriteRule ^ /c?z [QSA]").toList).toOption.map fun site =>
      ((site.scope r).engineOn, (site.finalBindings ⟨2024, 3, 9, 7, 5, 1⟩ r).query)) =
        some (true, "z&y".toList) := by
    subst hr
    decide +kernel
  obtain ⟨site, hsite, hfacts⟩ := Option.map_eq_some_iff.1 hread
  obtain ⟨hon, hquery⟩ : _ ∧ _ := by simpa only [Prod.mk.injEq] using hfacts
  have hsuccessive :
      Successive (site.bindings r ⟨2024, 3, 9, 7, 5, 1⟩) (site.history ⟨2024, 3, 9, 7, 5, 1⟩ r)
      (site.finalBindings ⟨2024, 3, 9, 7, 5, 1⟩ r) :=
    (Scope.trace hon r site.maxIterations (site.bindings r ⟨2024, 3, 9, 7, 5, 1⟩)).successive
  refine ⟨site, eq_ok_of_toOption hsite, hsuccessive, ?_⟩
  rw [← (query_standing _ _ _ hsuccessive).1, hquery]

end Application

end UrlRewrite
