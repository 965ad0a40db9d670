import UrlRewrite.Text.Basic

/-!
# Terminal text

A terminal takes some characters as orders: control characters, and sequences that begin with the
escape character, such as the one that switches to bold type. `Text.withoutOrders` gives the
characters that are left to be shown.

A sequence is read by a machine (`TerminalState.next`) until a final character brings it back to
`ground`. Blanks among the control characters are shown also in the middle of a sequence, and so is
then what follows them up to the next order.
-/

namespace UrlRewrite.Text

/-- How far a terminal has read a sequence. A *control* sequence begins with `[` behind the escape
character, a *device* sequence with `P`. -/
inductive TerminalState where
  | ground
  | escape
  | escapeBetween
  | control
  | controlNumbers
  | controlBetween
  | controlIgnored
  | device
  | deviceNumbers
  | deviceBetween
  | deviceIgnored
  | deviceData
  | command
  | string
deriving DecidableEq, Repr

namespace TerminalState

/-- Where a character of ASCII, given by its code, leads inside a sequence. -/
def continued (s : TerminalState) (n : Nat) : TerminalState :=
  let isBetween := 0x20 ≤ n ∧ n < 0x30
  let isNumber := 0x30 ≤ n ∧ n < 0x3C
  let isPrivate := 0x3C ≤ n ∧ n < 0x40
  let isFinal := 0x40 ≤ n ∧ n < 0x7F
  match s with
  | ground => ground
  | escape =>
    if isBetween then escapeBetween
    else if n = 0x50 then device
    else if n = 0x5B then control
    else if n = 0x5D then command
    else if n = 0x58 ∨ n = 0x5E ∨ n = 0x5F then string
    else if 0x30 ≤ n ∧ n < 0x7F then ground
    else escape
  | escapeBetween => if 0x30 ≤ n ∧ n < 0x7F then ground else escapeBetween
  -- numbers, in front of which private signs may stand, and then a final character
  | control =>
    if isBetween then controlBetween
    else if isNumber ∨ isPrivate then controlNumbers
    else if isFinal then ground
    else control
  | controlNumbers =>
    if isBetween then controlBetween
    else if isPrivate then controlIgnored
    else if isFinal then ground
    else controlNumbers
  | controlBetween =>
    if isNumber ∨ isPrivate then controlIgnored else if isFinal then ground else controlBetween
  | controlIgnored => if isFinal then ground else controlIgnored
  -- sequences for the device are read in the same way, and have data behind them
  | device =>
    if isBetween then deviceBetween
    else if isNumber ∨ isPrivate then deviceNumbers
    else if isFinal then deviceData
    else device
  | deviceNumbers =>
    if isBetween then deviceBetween
    else if isPrivate then deviceIgnored
    else if isFinal then deviceData
    else deviceNumbers
  | deviceBetween =>
    if isNumber ∨ isPrivate then deviceIgnored else if isFinal then deviceData else deviceBetween
  | deviceIgnored => deviceIgnored
  | deviceData => deviceData
  -- a command ends with a bell, and any other text only by the characters that end all sequences
  | command => if n = 7 then ground else command
  | string => string

/-- Where a character leads. The escape character begins a sequence, and two others end one,
wherever they stand. Characters outside ASCII lead nowhere, except that the byte `9C` in one of them
ends a string of data. -/
def next (s : TerminalState) (c : Char) : TerminalState :=
  if c.toNat = 0x18 ∨ c.toNat = 0x1A then ground
  else if c.toNat = 0x1B then escape
  else if c.toNat < 128 then s.continued c.toNat
  else if (s = deviceData ∨ s = string) ∧ (String.utf8EncodeChar c).contains 0x9C then ground
  else s

/-- Whether control characters are obeyed in the middle of a sequence. -/
def obeys (s : TerminalState) : Bool :=
  [ground, escape, escapeBetween, control, controlNumbers, controlBetween,
    controlIgnored].contains s

end TerminalState

/-- The control characters that are blanks, and as such shown. -/
def isShownControl (c : Char) : Bool := c == '\t' || c == '\n' || c == '\x0c' || c == '\r'

/-- Whether a character is visible where no sequence has begun. -/
def isVisible (c : Char) : Bool :=
  128 ≤ c.toNat || (32 ≤ c.toNat && c.toNat < 127) || isShownControl c

/-- What is shown of a text behind the state `s`; `showing` says whether the character in front of
it was shown. -/
def shownFrom (s : TerminalState) (showing : Bool) : Text → Text
  | [] => []
  | c :: rest =>
    if isVisible c && (showing || s == .ground) then
      c :: shownFrom (if c.toNat < 128 then s else .ground) true rest
    else if isShownControl c && s.obeys then c :: shownFrom s true rest
    else shownFrom (s.next c) false rest

/-- The characters of a text that are no orders to a terminal. -/
def withoutOrders (s : Text) : Text := shownFrom .ground true s

end UrlRewrite.Text
