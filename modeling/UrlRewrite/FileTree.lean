import UrlRewrite.Path

/-!
# File trees

The files below a directory as a value: their paths, seen from that directory, and their contents. A
directory is there if a file lies in it.
-/

namespace UrlRewrite

/-- Why a file cannot be read. -/
inductive FileError where
  | notFound
  | notADirectory
  | isADirectory
  /-- Anything else, in the words of the system. -/
  | other (reason : Text)
deriving DecidableEq, Repr

namespace FileError

def message : FileError → Text
  | notFound => "No such file or directory (os error 2)".toList
  | notADirectory => "Not a directory (os error 20)".toList
  | isADirectory => "Is a directory (os error 21)".toList
  | other reason => reason

end FileError

/-- Files: the components of their paths, and their contents. -/
structure FileTree where
  files : List (List Text × Text)

namespace FileTree

/-- The files whose paths are written with slashes. -/
def ofPaths (files : List (Text × Text)) : FileTree :=
  ⟨files.map fun f => (Text.splitAll '/' f.1, f.2)⟩

/-- The contents of the file at a place. -/
def file? (t : FileTree) (place : List Text) : Option Text := t.files.lookup place

def isDirectory (t : FileTree) (place : List Text) : Bool :=
  place.isEmpty || t.files.any fun f => place.isPrefixOf f.1 && place != f.1

/-- Follows components from a directory. What comes before a further component must be a directory,
and nothing is known of what lies outside the tree. -/
def walk (t : FileTree) (place : List Text) : List Text → Except FileError (List Text)
  | [] => .ok place
  | c :: rest =>
    if (t.file? place).isSome then .error .notADirectory
    else if !t.isDirectory place then .error .notFound
    else if c.isEmpty || c == ['.'] then t.walk place rest
    else if c == "..".toList then
      if place.isEmpty then .error .notFound else t.walk place.dropLast rest
    else t.walk (place ++ [c]) rest

/-- The contents of the file that a path leads to. -/
def read (t : FileTree) (path : Text) : Except FileError Text :=
  if path.isEmpty || path.head? = some '/' then .error .notFound
  else
    match t.walk [] (Text.splitAll '/' path) with
    | .error e => .error e
    | .ok place =>
      match t.file? place with
      | some contents => .ok contents
      | none => .error (if t.isDirectory place then .isADirectory else .notFound)

end FileTree

end UrlRewrite
