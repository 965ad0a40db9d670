import UrlRewrite.Text.Decimal

/-!
# Network addresses

The address of a peer: an IP address of version 4 or 6 and a port. An address of version 6 is shown
with its longest run of zero groups left out, the first of several; one that holds an address of
version 4 shows it with dots.
-/

namespace UrlRewrite

/-- An IP address: four octets or eight groups of 16 bits. -/
inductive IpAddress where
  | v4 (octets : List Nat)
  | v6 (groups : List Nat)
deriving DecidableEq, Repr

/-- An IP address and a port. -/
structure SocketAddress where
  ip : IpAddress
  port : Nat
deriving DecidableEq, Repr

namespace IpAddress

def isV6 : IpAddress → Bool
  | v6 _ => true
  | v4 _ => false

/-- A number in base 16, in lower case and without leading zeros. -/
def groupText (n : Nat) : Text := Nat.toDigits 16 n

def dotted (octets : List Nat) : Text := Text.joinWith ['.'] (octets.map Text.ofNat)

def colons (groups : List Nat) : Text := Text.joinWith [':'] (groups.map groupText)

/-- The start and the length of the longest run of zeros, the first of several; `start` and `len`
are those of the run being read, `i` the position. -/
def longestZeros (i start len : Nat) (best : Nat × Nat) : List Nat → Nat × Nat
  | [] => best
  | g :: gs =>
    if g = 0 then
      let start := if len = 0 then i else start
      let best := if best.2 < len + 1 then (start, len + 1) else best
      longestZeros (i + 1) start (len + 1) best gs
    else longestZeros (i + 1) 0 0 best gs

/-- How an address is shown. -/
def text : IpAddress → Text
  | v4 octets => dotted octets
  | v6 groups =>
    match groups with
    | [0, 0, 0, 0, 0, 0xFFFF, a, b] =>
      "::ffff:".toList ++ dotted [a / 256, a % 256, b / 256, b % 256]
    | _ =>
      let (start, len) := longestZeros 0 0 0 (0, 0) groups
      if 1 < len then
        colons (groups.take start) ++ "::".toList ++ colons (groups.drop (start + len))
      else colons groups

/-- The digits at the beginning of a text, as a number in a base; at most `most` digits. -/
def number? (base most limit : Nat) (s : Text) : Option (Nat × Nat × Text) :=
  let value? (c : Char) : Option Nat :=
    let v :=
      if c.isDigit then c.toNat - 48
      else if c.isLower then c.toNat - 87
      else if c.isUpper then c.toNat - 55
      else base
    if v < base then some v else none
  let (digits, rest) := Text.takeUpTo (fun c => (value? c).isSome) (most + 1) s
  let n := digits.foldl (fun n c => n * base + (value? c).getD 0) 0
  if digits.isEmpty || most < digits.length || limit < n then none
  else some (n, digits.length, rest)

/-- An octet without leading zeros. -/
def octet? (s : Text) : Option (Nat × Text) := do
  let (n, len, rest) ← number? 10 3 255 s
  if s.head? = some '0' ∧ 1 < len then none else some (n, rest)

/-- Four octets with dots between them. -/
def octets? (s : Text) : Option (List Nat × Text) := do
  let (a, s) ← octet? s
  let s ← List.isPrefixOf? ['.'] s
  let (b, s) ← octet? s
  let s ← List.isPrefixOf? ['.'] s
  let (c, s) ← octet? s
  let s ← List.isPrefixOf? ['.'] s
  let (d, s) ← octet? s
  some ([a, b, c, d], s)

/-- At most `n` groups with colons between them, and whether the last two are an address with
dots. -/
def groups (isFirst : Bool) : Nat → Text → List Nat × Bool × Text
  | 0, s => ([], false, s)
  | n + 1, s =>
    let behind? := if isFirst then some s else List.isPrefixOf? [':'] s
    match behind? with
    | none => ([], false, s)
    | some body =>
      -- four octets take the place of two groups, so there must be room for two
      match (if 0 < n then octets? body else none) with
      | some ([a, b, c, d], rest) => ([a * 256 + b, c * 256 + d], true, rest)
      | _ =>
        match number? 16 4 0xFFFF body with
        | none => ([], false, s)
        | some (g, _, rest) =>
          let (gs, dotted, rest) := groups false n rest
          (g :: gs, dotted, rest)

/-- Eight groups, of which a run of zeros may be left out. -/
def groups? (s : Text) : Option (List Nat × Text) :=
  let (front, dotted, rest) := groups true 8 s
  if front.length = 8 then some (front, rest)
  else if dotted then none
  else do
    let rest ← List.isPrefixOf? "::".toList rest
    let (back, _, rest) := groups true (8 - (front.length + 1)) rest
    some (front ++ List.replicate (8 - front.length - back.length) 0 ++ back, rest)

end IpAddress

namespace SocketAddress

/-- A port behind a colon, at the end of a text. -/
def port? (s : Text) : Option Nat := do
  let s ← List.isPrefixOf? [':'] s
  let (n, _, rest) ← IpAddress.number? 10 s.length Text.maxPort s
  if rest.isEmpty then some n else none

/-- The zone behind a percent sign, which does not count. -/
def skipZone (s : Text) : Option Text :=
  match s with
  | '%' :: zone => (IpAddress.number? 10 zone.length 0xFFFFFFFF zone).map (·.2.2)
  | _ => some s

/-- Reads an address and a port; an address of version 6 stands in square brackets. -/
def read? (s : Text) : Option SocketAddress :=
  match s with
  | '[' :: s => do
    let (groups, s) ← IpAddress.groups? s
    let s ← List.isPrefixOf? [']'] (← skipZone s)
    some ⟨.v6 groups, ← port? s⟩
  | _ => do
    let (octets, s) ← IpAddress.octets? s
    some ⟨.v4 octets, ← port? s⟩

end SocketAddress

end UrlRewrite
