import UrlRewrite.Regex.Tree
import UrlRewrite.Text.CharClass

/-!
# Reading regular expressions

`Tree.read?` reads a whole text as a regular expression, or gives `none` if it is not one. Open
groups and open brackets are kept on a stack, so that each step consumes at least one character and
the length of the text bounds the number of steps.

In verbose mode, `(?x)`, blanks and comments between the parts are skipped. Every function below
that advances over a character of the expression therefore takes the mode.
-/

namespace UrlRewrite.Regex

/-- Drops blanks and comments, the latter from `#` to the end of the line. -/
def skipLayoutFrom (inComment : Bool) : Text → Text
  | [] => []
  | c :: rest =>
    if inComment then skipLayoutFrom (c != '\n') rest
    else if isBlank c then skipLayoutFrom false rest
    else if c = '#' then skipLayoutFrom true rest
    else c :: rest

/-- Drops what does not count in verbose mode. -/
def skipLayout (verbose : Bool) (s : Text) : Text :=
  if verbose then skipLayoutFrom false s else s

/-- Advances over one character and what does not count behind it. -/
def advance (verbose : Bool) (s : Text) : Text := skipLayout verbose (s.drop 1)

/-- Characters with a meaning of their own; a backslash takes it from them. -/
def isMeta (c : Char) : Bool := "\\.+*?()|[]\x7b\x7d^$#&-~".toList.contains c

/-- Other characters that may stand behind a backslash and mean themselves. -/
def isEscapable (c : Char) : Bool :=
  c.toNat < 128 && !c.isAlphanum && c != '<' && c != '>'

def isHexDigit (c : Char) : Bool :=
  c.isDigit || ('a' ≤ c && c ≤ 'f') || ('A' ≤ c && c ≤ 'F')

def hexValue (digits : List Char) : Nat :=
  digits.foldl
    (fun n c =>
      n * 16 +
      (if c.isDigit then c.toNat - 48 else if c.toNat < 97 then c.toNat - 55 else c.toNat - 87))
    0

/-- The character with that code point, which may be neither a surrogate nor too large. -/
def charAt? (n : Nat) : Option Char := if n.isValidChar then some (Char.ofNat n) else none

/-- Exactly `n` hexadecimal digits. -/
def readHexDigits (verbose : Bool) : Nat → List Char → Text → Option (List Char × Text)
  | 0, found, s => some (found.reverse, s)
  | n + 1, found, c :: rest =>
    if isHexDigit c then readHexDigits verbose n (c :: found) (skipLayout verbose rest) else none
  | _ + 1, _, [] => none

/-- Characters up to a closing brace, all of which satisfy `ok`, in at most `n` steps. -/
def readBraced (verbose : Bool) (ok : Char → Bool) :
    Nat → List Char → Text → Option (List Char × Text)
  | _, _, [] => none
  | n, found, c :: rest =>
    if c.toNat = 0x7D then some (found.reverse, rest)
    else
      match n with
      | 0 => none
      | n + 1 =>
        if ok c then readBraced verbose ok n (c :: found) (skipLayout verbose rest) else none

/-- The code point behind `\x`, `\u` or `\U`: that many digits, or any number of them in braces. -/
def readCodePoint? (verbose : Bool) (digits : Nat) (s : Text) : Option (Char × Bool × Text) :=
  match skipLayout verbose s with
  | [] => none
  | c :: rest =>
    if c.toNat = 0x7B then do
      let (found, behind) ← readBraced verbose isHexDigit rest.length [] (skipLayout verbose rest)
      if found.isEmpty then none
      else
        let value := hexValue found
        if 0x100000000 ≤ value then none
        else (charAt? value).map (·, false, skipLayout verbose behind)
    else do
      let (found, behind) ← readHexDigits verbose digits [] (c :: rest)
      (charAt? (hexValue found)).map (·, digits == 2, behind)

/-- Cuts at the first place where `word` stands. -/
def cutAt? (word : Text) : Text → Option (Text × Text)
  | [] => none
  | c :: rest =>
    match List.isPrefixOf? word (c :: rest) with
    | some behind => some ([], behind)
    | none => (cutAt? word rest).map fun (a, b) => (c :: a, b)

/-- The meaning of the text in `\p{..}`: what it names, and whether it is the comparison `!=`, which
asks for the characters without that value. -/
def propertyName (name : Text) : PropertyName × Bool :=
  match cutAt? ['!', '='] name with
  | some (property, value) => (.valued property value, true)
  | none =>
    match name.splitFirst ':' with
    | some (property, value) => (.valued property value, false)
    | none =>
      match name.splitFirst '=' with
      | some (property, value) => (.valued property value, false)
      | none => (.single name, false)

/-- What stands behind `\p` or `\P`: one letter, or a name in braces. -/
def readProperty? (verbose negated : Bool) (s : Text) : Option (Atom × Text) :=
  match skipLayout verbose s with
  | [] => none
  | c :: rest =>
    if c.toNat = 0x7B then do
      let (name, behind) ←
        readBraced verbose (fun _ => true) rest.length [] (skipLayout verbose rest)
      let (property, differs) := propertyName name
      some (.property property (negated != differs), behind)
    else if c = '\\' then none
    else some (.property (.single [c]) negated, skipLayout verbose rest)

/-- Letters and hyphens, as in the name of a half border, in at most `n` steps. -/
def readBorderName (verbose : Bool) : Nat → List Char → Text → List Char × Text
  | 0, found, s => (found.reverse, s)
  | _ + 1, found, [] => (found.reverse, [])
  | n + 1, found, c :: rest =>
    if c.isAlpha || c = '-' then readBorderName verbose n (c :: found) (skipLayout verbose rest)
    else (found.reverse, c :: rest)

/-- What stands behind `\b`: a name in braces such as `start`, or nothing that belongs to it. -/
def readBorder? (verbose : Bool) (s : Text) : Option (Anchor × Text) :=
  match s with
  | [] => some (.wordBorder, [])
  | c :: rest =>
    -- without a brace there is no name, and a brace that no name can follow belongs to bounds
    if c.toNat ≠ 0x7B then some (.wordBorder, s)
    else
      match skipLayout verbose rest with
      | [] => none
      | d :: more =>
        if !(d.isAlpha || d = '-') then some (.wordBorder, s)
        else
          match readBorderName verbose (more.length + 1) [] (d :: more) with
          | (_, []) => none
          | (name, e :: behind) =>
            if e.toNat ≠ 0x7D then none
            else if name = "start".toList then some (.wordStart, behind)
            else if name = "end".toList then some (.wordEnd, behind)
            else if name = "start-half".toList then some (.wordStartHalf, behind)
            else if name = "end-half".toList then some (.wordEndHalf, behind)
            else none

/-- What a backslash and the text behind it mean. -/
def readEscape? (verbose : Bool) : Text → Option (Atom × Text)
  | [] => none
  | c :: rest =>
    let literal (n : Nat) : Option (Atom × Text) := some (.literal (Char.ofNat n) false, rest)
    -- there are no references to groups inside a pattern
    if c.isDigit then none
    else if c = 'x' then (readCodePoint? verbose 2 rest).map fun (d, b, r) => (.literal d b, r)
    else if c = 'u' then (readCodePoint? verbose 4 rest).map fun (d, _, r) => (.literal d false, r)
    else if c = 'U' then (readCodePoint? verbose 8 rest).map fun (d, _, r) => (.literal d false, r)
    else if c = 'p' then readProperty? verbose false rest
    else if c = 'P' then readProperty? verbose true rest
    else if c = 'd' then some (.short .digit false, rest)
    else if c = 's' then some (.short .space false, rest)
    else if c = 'w' then some (.short .word false, rest)
    else if c = 'D' then some (.short .digit true, rest)
    else if c = 'S' then some (.short .space true, rest)
    else if c = 'W' then some (.short .word true, rest)
    else if isMeta c || isEscapable c then some (.literal c false, rest)
    else if c = 'a' then literal 7
    else if c = 'f' then literal 12
    else if c = 't' then literal 9
    else if c = 'n' then literal 10
    else if c = 'r' then literal 13
    else if c = 'v' then literal 11
    else if c = 'A' then some (.anchor .textStart, rest)
    else if c = 'z' then some (.anchor .textEnd, rest)
    else if c = 'b' then (readBorder? verbose rest).map fun (a, r) => (.anchor a, r)
    else if c = 'B' then some (.anchor .noWordBorder, rest)
    else if c = '<' then some (.anchor .wordStart, rest)
    else if c = '>' then some (.anchor .wordEnd, rest)
    else none

/-! ### Square brackets -/

/-- The named ASCII sets of `[[:alpha:]]`. -/
def asciiSets : List (String × CharSet) :=
  [
    ("alnum", ⟨[48, 58, 65, 91, 97, 123]⟩), ("alpha", ⟨[65, 91, 97, 123]⟩), ("ascii", ⟨[0, 128]⟩),
    ("blank", ⟨[9, 10, 32, 33]⟩), ("cntrl", ⟨[0, 32, 127, 128]⟩), ("digit", ⟨[48, 58]⟩),
    ("graph", ⟨[33, 127]⟩), ("lower", ⟨[97, 123]⟩), ("print", ⟨[32, 127]⟩),
    ("punct", ⟨[33, 48, 58, 65, 91, 97, 123, 127]⟩), ("space", ⟨[9, 14, 32, 33]⟩),
    ("upper", ⟨[65, 91]⟩), ("word", ⟨[48, 58, 65, 91, 95, 96, 97, 123]⟩),
    ("xdigit", ⟨[48, 58, 65, 71, 97, 103]⟩)
  ]

/-- A named set such as `[:alpha:]` or `[:^alpha:]`, given the text behind the bracket. -/
def readNamedSet? (s : Text) : Option (ClassTree × Text) :=
  match s with
  | ':' :: rest =>
    let (negated, body) := match rest with
      | '^' :: more => (true, more)
      | _ => (false, rest)
    match Text.splitFirst ':' body with
    | some (name, ']' :: behind) =>
      (asciiSets.find? (·.1.toList == name)).map fun row => (.named row.2 negated, behind)
    | _ => none
  | _ => none

/-- One item between brackets: what an escape means, or the character itself. -/
def readClassItem? (verbose : Bool) : Text → Option (ClassTree × Text)
  | [] => none
  | '\\' :: rest =>
    match readEscape? verbose rest with
    | some (.literal c b, behind) => some (.literal c b, behind)
    | some (.short k n, behind) => some (.short k n, behind)
    | some (.property p n, behind) => some (.property p n, behind)
    | _ => none
  | c :: rest => some (.literal c false, rest)

/-- The character behind a hyphen that decides whether it stands for a range. In verbose mode blanks
are passed over, and the first `#`, but not the comment that it begins. -/
def peekBehindHyphen? (verbose : Bool) (s : Text) : Option Char :=
  if verbose then
    match s.dropWhile isBlank with
    | '#' :: comment => (comment.dropWhile isBlank).head?
    | next => next.head?
  else s.head?

/-- One item or a range of characters. A hyphen in front of `]` or of another hyphen is no range. -/
def readClassRange? (verbose : Bool) (s : Text) : Option (ClassTree × Text) := do
  let (first, behind) ← readClassItem? verbose s
  match skipLayout verbose behind with
  | [] => none
  | '-' :: rest =>
    -- the hyphen stands for itself at the end of the bracket, and two hyphens are an operator
    let next := peekBehindHyphen? verbose rest
    if next = some ']' ∨ next = some '-' then some (first, '-' :: rest)
    else
      let (last, behindLast) ← readClassItem? verbose (skipLayout verbose rest)
      match first, last with
      | .literal a x, .literal b y =>
        if a.toNat ≤ b.toNat then some (.range a x b y, behindLast) else none
      | _, _ => none
  | more => some (first, more)

/-- The hyphens at the beginning of a bracket, which mean themselves, in at most `n` steps. -/
def readHyphens (verbose : Bool) : Nat → List ClassTree → Text → List ClassTree × Text
  | n + 1, items, '-' :: rest =>
    readHyphens verbose n (.literal '-' false :: items) (skipLayout verbose rest)
  | _, items, s => (items, s)

/-- The beginning of a bracket, behind `[`: the negation, and hyphens or a closing bracket that mean
themselves. -/
def openBracket? (verbose : Bool) (s : Text) : Option (Bool × List ClassTree × Text) :=
  let start := skipLayout verbose s
  let (negated, body) := match start with
    | '^' :: rest => (true, skipLayout verbose rest)
    | _ => (false, start)
  let (items, rest) := readHyphens verbose body.length [] body
  -- a bracket that would be empty begins with a closing one, which then stands for itself
  match items, rest with
  | [], ']' :: more =>
    let behind := skipLayout verbose more
    if behind.isEmpty then none else some (negated, [.literal ']' false], behind)
  | _, [] => none
  | _, _ => some (negated, items, rest)

/-- What is open around the items being read: a bracket with the items in front of it, latest first,
or the left side of an operator. -/
inductive OpenClass where
  | bracket (negated : Bool) (before : List ClassTree)
  | op (o : SetOp) (left : ClassTree)

/-- The set read since the last bracket was opened, and what is open around it. -/
def closeOp (items : List ClassTree) : List OpenClass → ClassTree × List OpenClass
  | .op o left :: opened => (.op o left (.ofItems items), opened)
  | opened => (.ofItems items, opened)

/-- Reads up to the end of the outermost bracket, in at most `n` steps. -/
def readClassFrom (verbose : Bool) :
    Nat → List ClassTree → List OpenClass → Text → Option (Bool × ClassTree × Text)
  | 0, _, _, _ => none
  | n + 1, items, opened, s =>
    -- operators are read from the left: what has been read is the left side of the next one
    let operator (o : SetOp) (rest : Text) :=
      let (left, around) := closeOp items opened
      readClassFrom verbose n [] (.op o left :: around) rest
    let item :=
      match readClassRange? verbose (skipLayout verbose s) with
      | some (found, rest) => readClassFrom verbose n (found :: items) opened rest
      | none => none
    match skipLayout verbose s with
    | [] => none
    | '[' :: rest =>
      -- a bracket inside is a named set or opens one more bracket
      match readNamedSet? rest with
      | some (set, behind) => readClassFrom verbose n (set :: items) opened behind
      | none =>
        match openBracket? verbose rest with
        | some (negated, first, behind) =>
          readClassFrom verbose n first (.bracket negated items :: opened) behind
        | none => none
    | ']' :: rest =>
      match closeOp items opened with
      | (body, [.bracket negated _]) => some (negated, body, rest)
      | (body, .bracket negated before :: around) =>
        readClassFrom verbose n (.bracket negated body :: before) around rest
      | _ => none
    | '&' :: '&' :: rest => operator .inter rest
    | '-' :: '-' :: rest => operator .diff rest
    | '~' :: '~' :: rest => operator .symmDiff rest
    | _ => item

/-- Reads a bracket, given the text behind its `[`. -/
def readClass? (verbose : Bool) (s : Text) : Option (Tree × Text) := do
  let (negated, first, behind) ← openBracket? verbose s
  let (closedNegated, body, rest) ←
    readClassFrom verbose (behind.length + 1) first [.bracket negated []] behind
  some (.bracket closedNegated body, rest)

/-! ### Repetition counts -/

/-- Digits, with layout between them in verbose mode, in at most `n` steps. -/
def readCountDigits (verbose : Bool) : Nat → Nat → Bool → Text → Option (Nat × Text)
  | n + 1, value, found, c :: rest =>
    if c.isDigit then
      readCountDigits verbose n (value * 10 + (c.toNat - 48)) true (skipLayout verbose rest)
    else if found then some (value, c :: rest) else none
  | _, value, found, s => if found then some (value, s) else none

/-- A number of at most 32 bits, with blanks around it. -/
def readCount? (verbose : Bool) (s : Text) : Option (Nat × Text) := do
  let digits := s.dropWhile isBlank
  let (value, rest) ← readCountDigits verbose digits.length 0 false digits
  if value < 0x100000000 then some (value, skipLayout verbose (rest.dropWhile isBlank)) else none

/-- The bounds in braces behind a repeated part, given the text behind the opening brace. -/
def readBounds? (verbose : Bool) (s : Text) : Option (Nat × Option Nat × Text) := do
  let (least, rest) ← readCount? verbose (skipLayout verbose s)
  -- one bound is both of them, and a comma alone leaves the upper one open
  let (most, closing) ← match rest with
    | ',' :: more =>
      match skipLayout verbose more with
      | [] => none
      | c :: behind =>
        if c.toNat = 0x7D then some (none, c :: behind)
        else (readCount? verbose (c :: behind)).map fun (m, r) => (some m, r)
    | _ => some (some least, rest)
  match closing with
  | c :: behind =>
    if c.toNat = 0x7D && most.all (least ≤ ·) then some (least, most, behind) else none
  | [] => none

/-! ### Groups -/

/-- What a mode letter switches. -/
def modeFlag? : Char → Option ModeFlag
  | 'i' => some .ignoreCase
  | 'm' => some .multiLine
  | 's' => some .dotAll
  | 'U' => some .swapGreed
  | 'u' => some .unicode
  | 'R' => some .crlf
  | 'x' => some .verbose
  | _ => none

/-- Mode letters up to `:` or `)`, each at most once; a hyphen, at most one and not the last,
switches those behind it off. Gives the changes, whether a colon ended them, and the rest. -/
def readModes (negated dangling : Bool) (changes : List ModeChange) :
    Text → Option (List ModeChange × Bool × Text)
  | [] => none
  | c :: rest =>
    if c = ':' || c = ')' then
      -- a hyphen must have a letter behind it
      if dangling then none else some (changes.reverse, c == ':', rest)
    else if c = '-' then
      if negated then none else readModes true true changes rest
    else
      match modeFlag? c with
      | none => none
      | some flag =>
        if changes.any (·.flag == flag) then none
        else readModes negated false (⟨flag, !negated⟩ :: changes) rest

/-- Whether a character may stand in the name of a group. -/
def isNameChar (first : Bool) (c : Char) : Bool :=
  c == '_' ||
    (if first then CharSet.letters.contains c
     else c == '.' || c == '[' || c == ']' || CharSet.lettersAndNumbers.contains c)

/-- The name of a group, up to its closing angle bracket. -/
def readGroupName? (s : Text) : Option (Text × Text) :=
  match s.splitFirst '>' with
  | some (c :: name, rest) =>
    if isNameChar true c && name.all (isNameChar false) then some (c :: name, rest) else none
  | _ => none

/-- What follows an opening parenthesis. -/
inductive GroupStart where
  | plain
  | named (name : Text)
  | modes (changes : List ModeChange)
  | withModes (changes : List ModeChange)

/-- The beginning of a group, given the text behind its parenthesis. -/
def readGroupStart? (verbose : Bool) (s : Text) : Option (GroupStart × Text) :=
  match skipLayout verbose s with
  | '?' :: '=' :: _ => none
  | '?' :: '!' :: _ => none
  | '?' :: '<' :: '=' :: _ => none
  | '?' :: '<' :: '!' :: _ => none
  | '?' :: 'P' :: '<' :: rest => (readGroupName? rest).map fun (name, r) => (.named name, r)
  | '?' :: '<' :: rest => (readGroupName? rest).map fun (name, r) => (.named name, r)
  | '?' :: rest =>
    match readModes false false [] rest with
    | some (changes, true, behind) => some (.withModes changes, behind)
    | some (changes, false, behind) =>
      -- `(?)` would be a repetition of nothing
      if changes.isEmpty then none else some (.modes changes, behind)
    | none => none
  | rest => some (.plain, rest)

/-- The mode letter `x` among changes, if it is there. -/
def verboseAfter (verbose : Bool) (changes : List ModeChange) : Bool :=
  ((changes.find? (·.flag == .verbose)).map (·.on)).getD verbose

/-- A group that has been opened: what it will become, the parts and branches around it, latest
first, and the layout mode to return to. -/
structure OpenGroup where
  build : Tree → Tree
  parts : List Tree
  branches : List Tree
  verbose : Bool

/-- What has been read: the parts of the current branch and the branches in front of it, latest
first, the groups that are open, the captures and names given away, and the layout mode. -/
structure Progress where
  parts : List Tree := []
  branches : List Tree := []
  opened : List OpenGroup := []
  captures : Nat := 0
  names : List Text := []
  verbose : Bool := false

namespace Progress

def add (p : Progress) (part : Tree) : Progress := { p with parts := part :: p.parts }

/-- The tree of the innermost open group. -/
def body (p : Progress) : Tree :=
  match p.branches with
  | [] => .ofParts p.parts
  | branches => .alternate (.ofParts p.parts :: branches).reverse

def enter (p : Progress) (build : Tree → Tree) (verbose : Bool) : Progress :=
  { p with
    parts := []
    branches := []
    opened := ⟨build, p.parts, p.branches, p.verbose⟩ :: p.opened
    verbose := verbose }

def enterCapture (p : Progress) : Progress :=
  { p.enter (.capture (p.captures + 1)) p.verbose with captures := p.captures + 1 }

/-- Closes the innermost group. -/
def leave? (p : Progress) : Option Progress :=
  match p.opened with
  | [] => none
  | g :: opened =>
    some { p with
      parts := g.build p.body :: g.parts
      branches := g.branches
      opened := opened
      verbose := g.verbose }

/-- Replaces the last part by its repetition. There must be one, and it may not be a mode switch. -/
def repeatLast? (p : Progress) (least : Nat) (most : Option Nat) (greedy : Bool) :
    Option Progress :=
  match p.parts with
  | [] => none
  | .modes _ :: _ => none
  | part :: parts => some { p with parts := .repeated least most greedy part :: parts }

/-- Opens a group. -/
def start? (p : Progress) (s : Text) : Option (Progress × Text) := do
  let (kind, rest) ← readGroupStart? p.verbose s
  match kind with
  | .plain => some (p.enterCapture, rest)
  | .named name =>
    if p.names.contains name then none
    else some ({ p.enterCapture with names := name :: p.names }, rest)
  | .modes changes =>
    some ({ p.add (.modes changes) with verbose := verboseAfter p.verbose changes }, rest)
  | .withModes changes =>
    some (p.enter (.group changes) (verboseAfter p.verbose changes), rest)

end Progress

/-- A question mark behind a repetition makes it lazy. -/
def readGreedy : Text → Bool × Text
  | '?' :: rest => (false, rest)
  | s => (true, s)

/-- Reads to the end of the text, in at most `n` steps. -/
def readFrom : Nat → Progress → Text → Option Tree
  | 0, _, _ => none
  | n + 1, p, s =>
    let repetition (least : Nat) (most : Option Nat) (rest : Text) :=
      let (greedy, behind) := readGreedy rest
      match p.repeatLast? least most greedy with
      | some q => readFrom n q behind
      | none => none
    -- a part is put in front of the others, and what repeats or closes is about the latest ones
    match skipLayout p.verbose s with
    | [] => if p.opened.isEmpty then some p.body else none
    | '(' :: rest =>
      match p.start? rest with
      | some (q, behind) => readFrom n q behind
      | none => none
    | ')' :: rest =>
      match p.leave? with
      | some q => readFrom n q rest
      | none => none
    | '|' :: rest =>
      readFrom n { p with parts := [], branches := .ofParts p.parts :: p.branches } rest
    | '[' :: rest =>
      match readClass? p.verbose rest with
      | some (tree, behind) => readFrom n (p.add tree) behind
      | none => none
    | '?' :: rest => repetition 0 (some 1) rest
    | '*' :: rest => repetition 0 none rest
    | '+' :: rest => repetition 1 none rest
    | '\\' :: rest =>
      match readEscape? p.verbose rest with
      | some (atom, behind) => readFrom n (p.add (.atom atom)) behind
      | none => none
    | '.' :: rest => readFrom n (p.add (.atom .dot)) rest
    | '^' :: rest => readFrom n (p.add (.atom (.anchor .lineStart))) rest
    | '$' :: rest => readFrom n (p.add (.atom (.anchor .lineEnd))) rest
    | c :: rest =>
      -- an opening brace, which always stands for bounds
      if c.toNat = 0x7B then
        match readBounds? p.verbose rest with
        | some (least, most, behind) => repetition least most (skipLayout p.verbose behind)
        | none => none
      else readFrom n (p.add (.atom (.literal c false))) rest

/-- The regular expression that a text writes, unless it writes none or nests too deep. -/
def Tree.read? (s : Text) : Option Tree := do
  let tree ← readFrom (s.length + 1) {} s
  if tree.depth ≤ nestLimit then some tree else none

end UrlRewrite.Regex
