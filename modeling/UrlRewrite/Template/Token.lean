import UrlRewrite.Template.Basic
import UrlRewrite.Text.CharClass

/-!
# Tokens of templates

`Token.first` takes the first token off a text that is not empty. What begins no reference stands
for itself, so that only two things can be wrong with a text: a `${` that begins no table reference,
and a name that is no server variable's.

Inside the key and the default of a table reference, `%{..}` is taken as a whole, so that its brace
does not end the reference, provided that a further closing brace follows (`opensUnit`). Otherwise
the first closing brace ends it.
-/

namespace UrlRewrite

/-- A token of a template. The key and the default of an entry are templates again. -/
inductive Token where
  | literal (c : Char)
  | group (kind : GroupKind) (index : Nat)
  | foreignDigit
  | entry (table key : Text) (default : Option Text)
  | brokenEntry (written : Text)
  | server (name : Text)
  | env (name : Text)
deriving DecidableEq, Repr

namespace Token

/-- A character of the name of a table. -/
def isTableChar (c : Char) : Bool := isWord c || c == '.' || c == '-'

/-- Whether what follows a percent sign is a unit in braces that need not end the reference around
it. -/
def opensUnit (s : Text) : Bool := s.head? == some '\x7b' && 2 ≤ s.count '\x7d'

/-- The default of an entry up to the brace that ends the entry, and what follows. `inUnit` says
that a unit in braces has not been closed yet. -/
def cutDefault (inUnit : Bool) : Text → Option (Text × Text)
  | [] => none
  | c :: rest =>
    if inUnit then (cutDefault (c != '\x7d') rest).map fun (d, r) => (c :: d, r)
    else if c = '\x7d' then some ([], rest)
    else (cutDefault (c == '%' && opensUnit rest) rest).map fun (d, r) => (c :: d, r)

/-- The key of an entry, its default if there is one, and what follows the entry. -/
def cutKey (inUnit : Bool) : Text → Option (Text × Option Text × Text)
  | [] => none
  | c :: rest =>
    if inUnit then (cutKey (c != '\x7d') rest).map fun (k, d, r) => (c :: k, d, r)
    else if c = '\x7d' then some ([], none, rest)
    else if c = '|' then (cutDefault false rest).map fun (d, r) => ([], some d, r)
    else (cutKey (c == '%' && opensUnit rest) rest).map fun (k, d, r) => (c :: k, d, r)

/-- What follows `${`. -/
def entryFirst (s : Text) : Token × Text :=
  let table := s.takeWhile isTableChar
  match table, s.dropWhile isTableChar with
  | _ :: _, ':' :: body =>
    match cutKey false body with
    | some (key, default, rest) => (.entry table key default, rest)
    | none => (.brokenEntry (s.takeWhile (· != '\x7d')), [])
  | _, _ => (.brokenEntry (s.takeWhile (· != '\x7d')), [])

/-- What follows `%{`; without a closing brace the percent sign stands for itself. -/
def variableFirst (s : Text) : Token × Text :=
  match s.splitFirst '\x7d' with
  | none => (.literal '%', '\x7b' :: s)
  | some (name, rest) =>
    match List.isPrefixOf? "ENV:".toList name with
    | some (c :: more) => (.env (c :: more), rest)
    | _ => (.server name, rest)

/-- A reference to a group. Only the digits from `0` to `9` are indices. -/
def groupFirst (kind : GroupKind) (d : Char) : Token :=
  if d.isDigit then .group kind (d.toNat - 48) else .foreignDigit

/-- The token that a text begins with, given its first character and what follows, and the rest. -/
def first (c : Char) (s : Text) : Token × Text :=
  match s with
  -- the last character stands for itself, whatever it is
  | [] => (.literal c, [])
  | d :: rest =>
    if c = '\\' then (.literal d, rest)
    else if c = '$' then
      if isDigit d then (groupFirst .rule d, rest)
      else if d = '\x7b' then entryFirst rest
      else (.literal c, s)
    else if c = '%' then
      if isDigit d then (groupFirst .condition d, rest)
      else if d = '\x7b' then variableFirst rest
      else (.literal c, s)
    else (.literal c, s)

end Token

end UrlRewrite
