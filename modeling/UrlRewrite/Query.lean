import UrlRewrite.Text.Basic

/-!
# Query strings

A URI is a path, and perhaps a query behind the first question mark. A query that is empty is not
written, so that `splitQuery` of `joinQuery` gives the parts back for every path without a question
mark.
-/

namespace UrlRewrite

/-- The path and the query of a URI. -/
def splitQuery (uri : Text) : Text × Text := (uri.splitFirst '?').getD (uri, [])

/-- The URI with a query added to it. -/
def joinQuery (uri query : Text) : Text :=
  if query.isEmpty then uri else uri ++ (if uri.contains '?' then '&' else '?') :: query

/-- One query in front of the other. -/
def appendQuery (first second : Text) : Text :=
  if first.isEmpty then second else if second.isEmpty then first else first ++ '&' :: second

/-- A path without a question mark and a query are found again in the URI that they make. -/
theorem splitQuery_joinQuery {path : Text} (h : '?' ∉ path) (query : Text) :
    splitQuery (joinQuery path query) = (path, query) := by
  cases query with
  | nil => simp [joinQuery, splitQuery, Text.splitFirst_eq_none_iff.2 h]
  | cons c rest => simp [joinQuery, splitQuery, Text.splitFirst_append h, h]

end UrlRewrite
