import UrlRewrite.Source.Error
import UrlRewrite.Text.Blank
import UrlRewrite.Text.CaseFold

/-!
# Includes

A line `Include path` stands for the text that the path leads to, with its own includes put in place
as well. A path that leads nowhere is an error, unless the line says `IncludeOptional`.

How paths are resolved does not matter here, nor what else resolving one does: the resolver works in
any monad. It is asked once for every line, in the order of the expanded text.
-/

namespace UrlRewrite.Source

/-- The path that an include line names behind its keyword. -/
def includePath? (s : Text) : Option Text :=
  match s with
  | [] => none
  | c :: _ =>
    let body := s.dropWhile isGap
    let path := body.takeWhile (!isBlank ·)
    let behind := body.dropWhile (!isBlank ·)
    if isGap c && !path.isEmpty && behind.all (fun c => isGap c || c == '\r') then some path
    else none

/-- The path of an include line, and whether it is optional. -/
def includeLine? (line : Text) : Option (Bool × Text) := do
  let rest ← Text.afterKeyword? "Include".toList (line.dropWhile isGap)
  match (Text.afterKeyword? "Optional".toList rest).bind includePath? with
  | some path => some (true, path)
  | none => (includePath? rest).map (false, ·)

/-- The text of lines, `enter` being the text of an included file. -/
def expandLines {m : Type → Type} [Monad m] (resolve : Text → m (Option Text))
    (enter : Text → m (Except SourceError Text)) : List Text → m (Except SourceError Text)
  | [] => pure (.ok [])
  | line :: lines =>
    match includeLine? line with
    | none => do
      let rest ← expandLines resolve enter lines
      pure (rest.map (line ++ '\n' :: ·))
    | some (optional, path) => do
      match ← resolve path with
      | none =>
        if optional then expandLines resolve enter lines else pure (.error (.missingInclude path))
      | some contents =>
        -- an error in the file comes before those of the lines behind it
        match ← enter contents with
        | .error e => pure (.error e)
        | .ok text => do
          let rest ← expandLines resolve enter lines
          pure (rest.map (text ++ ·))

/-- A text with its includes, nested at most `n` deep counting the text itself, put in place. -/
def expandWithin {m : Type → Type} [Monad m] (resolve : Text → m (Option Text)) :
    Nat → Text → m (Except SourceError Text)
  | 0, _ => pure (.error (.includeDepth maxIncludeDepth))
  | n + 1, s => expandLines resolve (expandWithin resolve n) (Text.lines s)

/-- A text with its includes put in place. -/
def expandIncludes {m : Type → Type} [Monad m] (resolve : Text → m (Option Text)) (s : Text) :
    m (Except SourceError Text) :=
  expandWithin resolve (maxIncludeDepth + 1) s

end UrlRewrite.Source
