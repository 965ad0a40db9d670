import UrlRewrite.Text.Basic

/-!
# Paths

Paths are texts whose components stand between slashes. Empty components and `.` lead nowhere,
except that a slash at the very beginning stands for the root.
-/

namespace UrlRewrite.Path

/-- Components without those at the end that lead nowhere. -/
def dropIdle (components : List Text) : List Text :=
  (components.reverse.dropWhile fun c => c.isEmpty || c == ['.']).reverse

/-- What a path begins with, and the text of its further components. -/
def splitAnchor (path : Text) : Text × Text :=
  match path with
  | '/' :: rest => (['/'], rest)
  | ['.'] => (['.'], [])
  | '.' :: '/' :: rest => (['.'], '/' :: rest)
  | _ => ([], path)

/-- The path of the directory that a path lies in, as it is written. The root, and the empty path,
lie in none. -/
def parent? (path : Text) : Option Text :=
  let (anchor, rest) := splitAnchor path
  let components := dropIdle (Text.splitAll '/' rest)
  if components.isEmpty then if anchor = ['.'] then some [] else none
  else some (anchor ++ Text.joinWith ['/'] (dropIdle components.dropLast))

/-- A path seen from a directory. A path from the root stays as it is. -/
def join (directory path : Text) : Text :=
  if path.head? = some '/' || directory.isEmpty then path
  else if directory.getLast? = some '/' then directory ++ path
  else directory ++ '/' :: path

/-- What stands behind the last dot in the name of a file, unless that dot is its first
character. -/
def extension? (path : Text) : Option Text := do
  let name ← (dropIdle (Text.splitAll '/' path)).getLast?
  if name = "..".toList then none
  else
    let (stem, extension) ← Text.splitLast '.' name
    if stem.isEmpty then none else some extension

end UrlRewrite.Path
