import UrlRewrite.Text.Basic

/-!
# Percent escapes

A byte is escaped as a percent sign and two hexadecimal digits in upper case; a character outside
ASCII is always escaped, byte by byte of its UTF-8 form. Which ASCII characters are escaped depends
on the place: in the value of a backreference all but letters and digits, in the target of a
redirect only those that a URI cannot hold.
-/

namespace UrlRewrite.Text

/-- A digit of base 16 in upper case. -/
def upperHexDigit (n : Nat) : Char :=
  if n < 10 then Char.ofNat (48 + n) else Char.ofNat (55 + n)

def escapeByte (b : UInt8) : Text :=
  ['%', upperHexDigit (b.toNat / 16), upperHexDigit (b.toNat % 16)]

/-- Escapes the characters outside ASCII and those that `mustEscape` names. -/
def escapeChar (mustEscape : Char → Bool) (c : Char) : Text :=
  if c.toNat < 128 && !mustEscape c then [c] else (String.utf8EncodeChar c).flatMap escapeByte

def percentEscape (mustEscape : Char → Bool) (s : Text) : Text := s.flatMap (escapeChar mustEscape)

/-- What the value of a backreference may not hold. -/
def isReservedInValue (c : Char) : Bool := !c.isAlphanum

/-- What the target of a redirect may not hold. -/
def isReservedInRedirect (c : Char) : Bool :=
  c.toNat < 32 || c.toNat == 127 || " \"#<>|\\^".toList.contains c ||
    [0x60, 0x7B, 0x7D].contains c.toNat

/-- A value made safe for any place in a URI. -/
def escapeValue (s : Text) : Text := percentEscape isReservedInValue s

/-- A redirect target with the delimiters of a URI left as they are. -/
def escapeRedirect (s : Text) : Text := percentEscape isReservedInRedirect s

end UrlRewrite.Text
