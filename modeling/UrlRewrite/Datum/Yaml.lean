import UrlRewrite.Datum.Inline
import UrlRewrite.Text.Decimal

/-!
# Data in YAML notation

Documents of nested tables and lists that are laid out by indentation, with plain and quoted words
and inline values on their lines. This is a part of the notation: block texts, texts over several
lines, anchors and tags are not read.
-/

namespace UrlRewrite.Datum

/-- Whether all characters are decimal digits, and there is one. -/
def isDigits (s : Text) : Bool := !s.isEmpty && s.all Char.isDigit

/-- A word without its sign. -/
def unsigned : Text → Text
  | '-' :: rest => rest
  | '+' :: rest => rest
  | s => s

/-- The exponent of a number, with the sign that may stand in front of it. -/
def isExponent : Text → Bool
  | [] => true
  | 'e' :: rest => isDigits (unsigned rest)
  | 'E' :: rest => isDigits (unsigned rest)
  | _ => false

/-- Whether a word is a number that is not an integer. -/
def isFraction (s : Text) : Bool :=
  let body := unsigned s
  let whole := body.takeWhile Char.isDigit
  match body.dropWhile Char.isDigit with
  | '.' :: rest =>
    let places := rest.takeWhile Char.isDigit
    (!whole.isEmpty || !places.isEmpty) && isExponent (rest.dropWhile Char.isDigit) ||
      (whole.isEmpty && [".inf", ".Inf", ".INF", ".nan", ".NaN",
        ".NAN"].contains (String.ofList body))
  | rest => !whole.isEmpty && !rest.isEmpty && isExponent rest

/-- The value of a word in decimal. Digits behind a leading zero are no number. -/
def decimal? (s : Text) : Option Int :=
  let body := unsigned s
  if isDigits body && (body.length = 1 || body.head? != some '0') then
    let value : Nat := body.foldl (fun n c => n * 10 + (c.toNat - 48)) 0
    some (if s.head? = some '-' then -(value : Int) else value)
  else none

/-- What a plain word stands for. -/
def ofYamlWord (s : Text) : Datum :=
  if s.isEmpty then other []
  else if ["~", "null", "Null", "NULL"].contains (String.ofList s) then null
  else if ["true", "True", "TRUE"].contains (String.ofList s) then boolean true
  else if ["false", "False", "FALSE"].contains (String.ofList s) then boolean false
  else
    match decimal? s with
    | some n => integer n
    | none => if isFraction s then other s else text s

/-- Inline values in YAML. -/
def yamlStyle : InlineStyle := ⟨':', false, true, fun s => some (ofYamlWord s)⟩

/-- A plain word up to the comment behind it. -/
def beforeComment : Text → Text
  | [] => []
  | c :: rest => if isBlank c && rest.head? == some '#' then [] else c :: beforeComment rest

/-- Whether a colon in a word makes it the key of a row. -/
def opensRow : Text → Bool
  | [] => false
  | c :: rest => c = ':' && rest.head?.elim true isBlank || opensRow rest

/-- Reads the value that stands on a line. -/
def yamlInline? (s : Text) : Option Datum :=
  match s.head? with
  | none => some (other [])
  | some c =>
    if c = '"' || c = '\'' || c = '[' || c = '\x7b' then
      match inline? yamlStyle s with
      | some (d, rest) => if (skipBlanks false rest).isEmpty then some d else none
      | none => none
    else
      let word := Text.trimEnd (beforeComment s)
      if "|>&*!@%,]\x7d\x60".toList.contains c || opensRow word then none
      else some (ofYamlWord word)

/-- The key at the beginning of a line and what stands behind its colon. -/
def yamlKey? (s : Text) : Option (Text × Text) :=
  match s with
  | '"' :: _ => readKey yamlStyle s
  | '\'' :: _ => readKey yamlStyle s
  | _ =>
    let rec go : Text → Option (Text × Text)
      | [] => none
      | c :: rest =>
        if c = ':' && rest.head?.elim true isBlank then some ([], rest)
        else (go rest).map fun (key, left) => (c :: key, left)
    (go s).map fun (key, left) => (Text.trimEnd key, left)

/-- A line: its indentation, and what stands on it. -/
abbrev YamlLine := Nat × Text

/-- The lines that hold something. -/
def yamlLines (s : Text) : List YamlLine :=
  (Text.lines s).filterMap fun line =>
    let body := Text.trim line
    if body.isEmpty || body.head? == some '#' || body == "---".toList then none
    else some ((line.takeWhile (· == ' ')).length, body)

/-- Whether a line starts an item of a list. -/
def isItem (s : Text) : Bool :=
  match s with
  | ['-'] => true
  | '-' :: c :: _ => isBlank c
  | _ => false

mutual

/-- The value of lines that belong together, with at most `fuel` steps. -/
def yamlBlock : (fuel : Nat) → List YamlLine → Option Datum
  | 0, _ => none
  | _, [] => some (other [])
  | fuel + 1, (indent, s) :: rest =>
    if isItem s then (yamlItems fuel indent ((indent, s) :: rest)).map list
    else if (yamlKey? s).isSome then (yamlRows fuel indent ((indent, s) :: rest)).map table
    else if rest.isEmpty then yamlInline? s
    else none

/-- The items of a list; what is indented further belongs to the item before. -/
def yamlItems : (fuel indent : Nat) → List YamlLine → Option (List Datum)
  | 0, _, _ => none
  | _, _, [] => some []
  | fuel + 1, indent, (i, s) :: rest => do
    let within := rest.takeWhile (·.1 > indent)
    let body := (s.drop 1).dropWhile isBlank
    -- what stands behind the dash is laid out as if it stood on a line of its own
    let block :=
      if body.isEmpty then within else (indent + (s.length - body.length), body) :: within
    if i = indent && isItem s then
      let item ← yamlBlock fuel block
      let items ← yamlItems fuel indent (rest.dropWhile (·.1 > indent))
      some (item :: items)
    else none

/-- The rows of a table; a list under a key may stand as far left as the key. -/
def yamlRows : (fuel indent : Nat) → List YamlLine → Option (List (Text × Datum))
  | 0, _, _ => none
  | _, _, [] => some []
  | fuel + 1, indent, (i, s) :: rest => do
    let (key, behind) ← yamlKey? s
    let inside (line : YamlLine) : Bool := line.1 > indent || (line.1 = indent && isItem line.2)
    let value := Text.trim behind
    let block := rest.takeWhile inside
    -- the value is on the line or on those below it, not on both
    let value ←
      if value.isEmpty || value.head? == some '#' then yamlBlock fuel block
      else if block.isEmpty then yamlInline? value
      else none
    if i = indent then
      let rows ← yamlRows fuel indent (rest.dropWhile inside)
      some ((key, value) :: rows)
    else none

end

/-- Reads a document in YAML notation. -/
def ofYaml? (s : Text) : Option Datum :=
  match skipBlanks false s with
  | '\x7b' :: _ => whole
  | '[' :: _ => whole
  | _ => yamlBlock (2 * s.length + 2) (yamlLines s)
where
  /-- A document that is one inline value. -/
  whole : Option Datum := yamlInline? (skipBlanks false s)

end UrlRewrite.Datum
