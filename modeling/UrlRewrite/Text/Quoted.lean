import UrlRewrite.Text.CharClass

/-!
# Quoted text

The form in which messages show a text: between double quotes, with the quote, the backslash, the
common controls and everything unprintable escaped.
-/

namespace UrlRewrite.Text

/-- A number in base 16, in lower case and without leading zeros. -/
def hexadecimal (n : Nat) : Text := Nat.toDigits 16 n

/-- A character as it stands in a quoted text. -/
def quoteChar (c : Char) : Text :=
  if c = '"' then "\\\"".toList
  else if c = '\\' then "\\\\".toList
  else if c = '\n' then "\\n".toList
  else if c = '\r' then "\\r".toList
  else if c = '\t' then "\\t".toList
  else if c.toNat = 0 then "\\0".toList
  else if isUnprintable c then "\\u\x7b".toList ++ hexadecimal c.toNat ++ "\x7d".toList
  else [c]

/-- A text between double quotes, with its special characters escaped. -/
def quote (s : Text) : Text := '"' :: s.flatMap quoteChar ++ ['"']

/-- The quoted text as a string, for messages. -/
def quoted (s : Text) : String := String.ofList (quote s)

end UrlRewrite.Text
