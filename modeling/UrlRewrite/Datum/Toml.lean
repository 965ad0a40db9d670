import UrlRewrite.Datum.Inline
import UrlRewrite.Text.Decimal

/-!
# Data in TOML notation

Documents of lines `key = value` under headers that name the table, or the list of tables, that the
lines belong to. This is a part of the notation: texts over several lines are not read.
-/

namespace UrlRewrite.Datum

/-- What a plain word stands for. Digits may be grouped by underscores. -/
def ofTomlWord? (s : Text) : Option Datum :=
  if s = "true".toList then some (boolean true)
  else if s = "false".toList then some (boolean false)
  else
    match (Text.readInt Text.maxInt64 (s.filter (· != '_'))).toOption with
    | some n => some (integer n)
    | none =>
      match s.head? with
      | some c =>
        if c.isDigit || c = '-' || c = '+' || c = 'i' || c = 'n' then some (other s) else none
      | none => none

/-- Inline values in TOML. -/
def tomlStyle : InlineStyle := ⟨'=', true, false, ofTomlWord?⟩

/-- A character of a key that is not quoted. -/
def isBareKeyChar (c : Char) : Bool := c.isAlphanum || c = '_' || c = '-'

/-- Reads a key of parts between dots, with at most `fuel` parts. -/
def tomlKey? : (fuel : Nat) → Text → Option (List Text × Text)
  | 0, _ => none
  | fuel + 1, s => do
    let (part, rest) ← match s.dropWhile isGap with
      | '"' :: rest => readQuoted rest
      | '\'' :: rest => Text.splitFirst '\'' rest
      | s =>
        let part := s.takeWhile isBareKeyChar
        (if part.isEmpty then none else some (part, s.dropWhile isBareKeyChar))
    match rest.dropWhile isGap with
    | '.' :: rest => (tomlKey? fuel rest).map fun (parts, left) => (part :: parts, left)
    | rest => some ([part], rest)

/-- Changes the row of a key, or adds one. -/
def changeRow (key : Text) (change : Option Datum → Option Datum) :
    List (Text × Datum) → Option (List (Text × Datum))
  | [] => (change none).map fun d => [(key, d)]
  | (k, d) :: rows =>
    if k = key then (change (some d)).map fun d => (k, d) :: rows
    else (changeRow key change rows).map ((k, d) :: ·)

/-- Changes the value that a path leads to. In a list of tables, the path goes on in the last
one. -/
def changeAt (change : Option Datum → Option Datum) : List Text → Option Datum → Option Datum
  | [], d => change d
  | key :: path, none => (changeRow key (changeAt change path) []).map table
  | key :: path, some (table rows) => (changeRow key (changeAt change path) rows).map table
  | key :: path, some (list items) =>
    match items.getLast? with
    | some (table rows) =>
      (changeRow key (changeAt change path) rows).map fun rows =>
        list (items.dropLast ++ [table rows])
    | _ => none
  | _ :: _, some _ => none

/-- A table, which is there already or is begun. -/
def openTable : Option Datum → Option Datum
  | none => some (table [])
  | some (table rows) => some (table rows)
  | some _ => none

/-- One more table of a list. -/
def openItem : Option Datum → Option Datum
  | none => some (list [table []])
  | some (list items) => some (list (items ++ [table []]))
  | some _ => none

/-- The value of a key, which must have none yet. -/
def assign (d : Datum) : Option Datum → Option Datum
  | none => some d
  | some _ => none

/-- What follows the end of a line, if nothing but a comment stands before it. -/
def tomlLineEnd? (s : Text) : Option Text :=
  match s.dropWhile (fun c => isGap c || c = '\r') with
  | [] => some []
  | '\n' :: rest => some rest
  | '#' :: rest => some (rest.dropWhile (· != '\n'))
  | _ => none

/-- Reads lines into a document, of which `path` leads to the current table. -/
def tomlLines (path : List Text) (document : Datum) : (fuel : Nat) → Text → Option Datum
  | 0, _ => none
  | fuel + 1, s =>
    match skipBlanks false s with
    | [] => some document
    -- a header in two brackets opens one more table of a list
    | '[' :: '[' :: rest => do
      let (path, rest) ← tomlKey? rest.length rest
      let rest ← List.isPrefixOf? "]]".toList rest
      let document ← changeAt openItem path document
      tomlLines path document fuel (← tomlLineEnd? rest)
    | '[' :: rest => do
      let (path, rest) ← tomlKey? rest.length rest
      let rest ← List.isPrefixOf? "]".toList rest
      let document ← changeAt openTable path document
      tomlLines path document fuel (← tomlLineEnd? rest)
    | s => do
      -- any other line gives a value to a key of the current table
      let (key, rest) ← tomlKey? s.length s
      let rest ← List.isPrefixOf? "=".toList rest
      let (value, rest) ← inline? tomlStyle rest
      let document ← changeAt (assign value) (path ++ key) document
      tomlLines path document fuel (← tomlLineEnd? rest)

/-- Reads a document in TOML notation. -/
def ofToml? (s : Text) : Option Datum := tomlLines [] (table []) (s.length + 1) s

end UrlRewrite.Datum
