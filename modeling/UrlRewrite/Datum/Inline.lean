import UrlRewrite.Datum.Basic
import UrlRewrite.Text.Blank

/-!
# Inline notation

Values between brackets: `[a, "b"]` and tables in braces, with quoted texts and plain words. YAML
and TOML share this notation. They differ in what ends the key of a row, in how an apostrophe is
quoted and in what a plain word stands for, which is what an `InlineStyle` says; texts in JSON
notation can be read in the style of YAML. Quoted texts that go over several lines are not read.
-/

namespace UrlRewrite

/-- What notations with inline values differ in. -/
structure InlineStyle where
  /-- The character between a key and its value. -/
  separator : Char
  /-- Whether the separator also counts where no blank follows it. -/
  separatesAnywhere : Bool
  /-- Whether an apostrophe in a text between apostrophes is written twice; otherwise it ends the
  text. -/
  doublesApostrophes : Bool
  /-- What a plain word stands for. -/
  word : Text → Option Datum

namespace Datum

/-- The value of a hexadecimal digit. -/
def hexDigit? (c : Char) : Option Nat :=
  if '0' ≤ c ∧ c ≤ '9' then some (c.toNat - 48)
  else if 'a' ≤ c ∧ c ≤ 'f' then some (c.toNat - 87)
  else if 'A' ≤ c ∧ c ≤ 'F' then some (c.toNat - 55)
  else none

/-- The character whose code point is written in hexadecimal. -/
def codePoint? (digits : Text) : Option Char := do
  let n ← digits.foldlM (fun n c => (hexDigit? c).map (16 * n + ·)) 0
  if n.isValidChar then some (Char.ofNat n) else none

/-- What a backslash and one character stand for. -/
def escape? : Char → Option Char
  | '"' => some '"'
  | '\\' => some '\\'
  | '/' => some '/'
  | '0' => some '\x00'
  | 'b' => some '\x08'
  | 'e' => some '\x1b'
  | 'f' => some '\x0c'
  | 'n' => some '\n'
  | 'r' => some '\r'
  | 't' => some '\t'
  | _ => none

/-- Reads a text behind its opening double quote. -/
def readQuoted : Text → Option (Text × Text)
  | [] => none
  | '"' :: rest => some ([], rest)
  | '\n' :: _ => none
  | '\\' :: 'x' :: a :: b :: rest => do
    let c ← codePoint? [a, b]
    (readQuoted rest).map fun (s, left) => (c :: s, left)
  | '\\' :: 'u' :: a :: b :: c :: d :: rest => do
    let c ← codePoint? [a, b, c, d]
    (readQuoted rest).map fun (s, left) => (c :: s, left)
  | '\\' :: 'U' :: a :: b :: c :: d :: e :: f :: g :: h :: rest => do
    let c ← codePoint? [a, b, c, d, e, f, g, h]
    (readQuoted rest).map fun (s, left) => (c :: s, left)
  | '\\' :: e :: rest => do
    let c ← escape? e
    (readQuoted rest).map fun (s, left) => (c :: s, left)
  | c :: rest => (readQuoted rest).map fun (s, left) => (c :: s, left)

/-- Reads a text behind its opening apostrophe. -/
def readSingleQuoted (style : InlineStyle) : Text → Option (Text × Text)
  | [] => none
  | '\n' :: _ => none
  | ['\''] => some ([], [])
  | '\'' :: c :: rest =>
    if c = '\'' && style.doublesApostrophes then
      (readSingleQuoted style rest).map fun (s, left) => ('\'' :: s, left)
    else some ([], c :: rest)
  | c :: rest => (readSingleQuoted style rest).map fun (s, left) => (c :: s, left)

/-- Drops blanks, line breaks and comments; `inComment` says that a comment is being read. -/
def skipBlanks (inComment : Bool) : Text → Text
  | [] => []
  | c :: rest =>
    if c = '\n' then skipBlanks false rest
    else if inComment then skipBlanks true rest
    else if c = '#' then skipBlanks true rest
    else if isBlank c then skipBlanks false rest
    else c :: rest

/-- Whether what follows ends a plain word. -/
def endsWord (style : InlineStyle) : Text → Bool
  | [] => true
  | c :: rest =>
    c = ',' || c = '[' || c = ']' || c = '\x7b' || c = '\x7d' || c = '\n' ||
      (c = style.separator && (style.separatesAnywhere || (rest.head?.elim true isBlank))) ||
      (isBlank c && rest.head? == some '#')

/-- The plain word at the beginning, with the blanks behind it, and the rest. -/
def plainWord (style : InlineStyle) : Text → Text × Text
  | [] => ([], [])
  | c :: rest =>
    if endsWord style (c :: rest) then ([], c :: rest)
    else
      let (word, left) := plainWord style rest
      (c :: word, left)

/-- Reads a key and the separator behind it. -/
def readKey (style : InlineStyle) (s : Text) : Option (Text × Text) := do
  let (key, rest) ← match s with
    | '"' :: rest => readQuoted rest
    | '\'' :: rest => readSingleQuoted style rest
    | s =>
      let (word, rest) := plainWord style s
      if word.isEmpty then none else some (Text.trimEnd word, rest)
  match skipBlanks false rest with
  | c :: rest => if c = style.separator then some (key, rest) else none
  | [] => none

mutual

/-- Reads a value, with at most `fuel` steps. -/
def readValue (style : InlineStyle) : (fuel : Nat) → Text → Option (Datum × Text)
  | 0, _ => none
  | fuel + 1, s =>
    match skipBlanks false s with
    | '"' :: rest => (readQuoted rest).map fun (t, left) => (text t, left)
    | '\'' :: rest => (readSingleQuoted style rest).map fun (t, left) => (text t, left)
    | '[' :: rest => (readItems style fuel rest).map fun (items, left) => (list items, left)
    | '\x7b' :: rest => (readRows style fuel rest).map fun (rows, left) => (table rows, left)
    | s =>
      let (word, left) := plainWord style s
      (style.word (Text.trimEnd word)).map (·, left)

/-- Reads the items of a list behind its opening bracket. -/
def readItems (style : InlineStyle) : (fuel : Nat) → Text → Option (List Datum × Text)
  | 0, _ => none
  | fuel + 1, s =>
    match skipBlanks false s with
    | ']' :: rest => some ([], rest)
    | s => do
      let (item, rest) ← readValue style fuel s
      match skipBlanks false rest with
      | ',' :: rest => (readItems style fuel rest).map fun (items, left) => (item :: items, left)
      | ']' :: rest => some ([item], rest)
      | _ => none

/-- Reads the rows of a table behind its opening brace. -/
def readRows (style : InlineStyle) : (fuel : Nat) → Text → Option (List (Text × Datum) × Text)
  | 0, _ => none
  | fuel + 1, s =>
    match skipBlanks false s with
    | '\x7d' :: rest => some ([], rest)
    | s => do
      let (key, rest) ← readKey style s
      let (value, rest) ← readValue style fuel rest
      match skipBlanks false rest with
      | ',' :: rest =>
        (readRows style fuel rest).map fun (rows, left) => ((key, value) :: rows, left)
      | '\x7d' :: rest => some ([(key, value)], rest)
      | _ => none

end

/-- Reads the value at the beginning. Every second step at least takes a character away. -/
def inline? (style : InlineStyle) (s : Text) : Option (Datum × Text) :=
  readValue style (2 * s.length + 2) s

end Datum

end UrlRewrite
