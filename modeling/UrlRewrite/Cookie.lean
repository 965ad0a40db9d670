import UrlRewrite.Text.Decimal

/-!
# Cookies

A rule can issue a cookie. `Cookie.header` is its header value: an attribute is written only if the
cookie has it, and the lifetime, which is given in minutes, becomes an age in seconds. An age beyond
the integers of 64 bits becomes the greatest one of them.
-/

namespace UrlRewrite

/-- A cookie. Without a lifetime, or with a lifetime of zero, it lasts as long as the session. -/
structure Cookie where
  name : Text
  value : Text
  domain : Option Text := none
  /-- The lifetime in minutes. -/
  lifetime : Option Nat := none
  path : Option Text := none
  secure : Bool := false
  httpOnly : Bool := false
deriving DecidableEq, Repr

namespace Cookie

/-- An attribute with a value, if there is one. -/
def attributeText (name : String) : Option Text → Text
  | none => []
  | some value => "; ".toList ++ name.toList ++ '=' :: value

/-- The age in seconds, for a lifetime that is not zero. -/
def maxAge? (c : Cookie) : Option Nat :=
  (c.lifetime.filter (0 < ·)).map fun minutes => min (60 * minutes) Text.maxInt64

/-- The value of the header that sets the cookie. -/
def header (c : Cookie) : Text :=
  c.name ++ '=' :: c.value ++ attributeText "Domain" c.domain ++
    attributeText "Max-Age" (c.maxAge?.map Text.ofNat) ++ attributeText "Path" c.path ++
    (if c.secure then "; Secure".toList else []) ++ (if c.httpOnly then "; HttpOnly".toList else [])

/-- The age is 60 times the lifetime as long as this is an integer of 64 bits. -/
theorem maxAge?_eq {c : Cookie} (h : ∀ n, c.lifetime = some n → 60 * n ≤ Text.maxInt64) :
    c.maxAge? = (c.lifetime.filter (0 < ·)).map (60 * ·) := by
  rw [maxAge?]
  cases hlifetime : c.lifetime with
  | none => rfl
  | some n =>
    have hage : min (60 * n) Text.maxInt64 = 60 * n := Nat.min_eq_left (h n hlifetime)
    by_cases hn : 0 < n <;> simp [Option.filter, hn, hage]

/-- The greatest lifetime has the greatest age. -/
example (c : Cookie) (h : c.lifetime = some Text.maxInt64) : c.maxAge? = some Text.maxInt64 := by
  rw [maxAge?, h]
  rfl

end Cookie

end UrlRewrite
