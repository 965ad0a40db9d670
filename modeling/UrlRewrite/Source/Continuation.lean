import UrlRewrite.Source.Error
import UrlRewrite.Text.Blank

/-!
# Continued lines

A line whose last character that is not blank is a backslash goes on in the line that follows it.
The backslash and the blanks around the join are left out, and the last line must not be continued.
-/

namespace UrlRewrite.Source

/-- A continued line without its backslash and the blanks behind it. -/
def continuedHead? (line : Text) : Option Text :=
  let kept := Text.trimEnd line
  if kept.getLast? = some '\\' then some kept.dropLast else none

/-- The text of lines, of which the first continues another one if `continued` says so. -/
def joinLines (continued : Bool) : List Text → Except SourceError Text
  | [] => if continued then .error .danglingContinuation else .ok []
  | line :: lines =>
    let piece := if continued then Text.trimStart line else line
    match continuedHead? piece with
    | some head => (joinLines true lines).map (head ++ ·)
    | none => (joinLines false lines).map (piece ++ '\n' :: ·)

/-- Joins continued lines. -/
def joinContinued (s : Text) : Except SourceError Text := joinLines false (Text.lines s)

end UrlRewrite.Source
