import UrlRewrite.Datum.Basic
import UrlRewrite.Text.Decimal
import UrlRewrite.Text.Quoted

/-!
# Data as JSON

The written form of a value as JSON text, laid out over several lines: every item of a list and
every row of a table stands on a line of its own, two spaces further in than the bracket that opens
it. Rows keep their order.
-/

namespace UrlRewrite.Datum

/-- A character inside a JSON string. Only the quote, the backslash and the controls are escaped. -/
def jsonChar (c : Char) : Text :=
  if c = '"' then "\\\"".toList
  else if c = '\\' then "\\\\".toList
  else if c = '\x08' then "\\b".toList
  else if c = '\t' then "\\t".toList
  else if c = '\n' then "\\n".toList
  else if c = '\x0c' then "\\f".toList
  else if c = '\r' then "\\r".toList
  else if c < ' ' then
    let digits := Text.hexadecimal c.toNat
    "\\u".toList ++ List.replicate (4 - digits.length) '0' ++ digits
  else [c]

/-- A text as a JSON string. -/
def jsonString (s : Text) : Text := '"' :: s.flatMap jsonChar ++ ['"']

/-- The start of a line that stands `depth` brackets deep. -/
def newLine (depth : Nat) : Text := '\n' :: List.replicate (2 * depth) ' '

mutual

/-- A value inside `depth` brackets. -/
def json (depth : Nat) : Datum → Text
  | null => "null".toList
  | boolean b => (if b then "true" else "false").toList
  | integer n => Text.ofInt n
  | other written => written
  | text s => jsonString s
  | list [] => "[]".toList
  | list items => '[' :: jsonItems (depth + 1) items ++ newLine depth ++ [']']
  | table [] => "\x7b\x7d".toList
  | table rows => '\x7b' :: jsonRows (depth + 1) rows ++ newLine depth ++ ['\x7d']

/-- The items of a list, each on its line. -/
def jsonItems (depth : Nat) : List Datum → Text
  | [] => []
  | [d] => newLine depth ++ json depth d
  | d :: rest => newLine depth ++ json depth d ++ ',' :: jsonItems depth rest

/-- The rows of a table, each on its line. -/
def jsonRows (depth : Nat) : List (Text × Datum) → Text
  | [] => []
  | [(key, d)] => newLine depth ++ jsonString key ++ ": ".toList ++ json depth d
  | (key, d) :: rest =>
    newLine depth ++ jsonString key ++ ": ".toList ++ json depth d ++ ',' :: jsonRows depth rest

end

/-- A value as JSON text. -/
def toJson (d : Datum) : Text := json 0 d

end UrlRewrite.Datum
