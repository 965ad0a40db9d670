import UrlRewrite.Config.Block
import UrlRewrite.Proofs.Text.Keyword
import UrlRewrite.Proofs.Text.Pieces

/-!
# Layouts

The ways of writing a tree of directives down, line by line.

* A line for a directive (`Layout.Line`) is indented at will, spells its keyword in any case, has
  spaces or tabs between the fields (`Layout.Written`), and perhaps more of them at the end;
* a line that opens a block (`Layout.Opens`) says what the block becomes of its children, and one
  closes it (`Layout.Closes`);
* idle lines (`Layout.Idle`) are blank or comments;
* `Layout.Lines` lays out the directives of a block: one line for each that stands on a line, and
  for a block its first line, the lines of its children and its last line, with idle lines anywhere.
  A virtual host does not stand directly in a virtual host.

How lines are separated is left to `Text.lines`: by a line feed, with or without a carriage return.
-/

namespace UrlRewrite.Layout

/-! ### Fields -/

/-- One space or tab, or more. -/
def IsGap (s : Text) : Prop := s ≠ [] ∧ s.Each (isGap · = true)

/-- Spaces and tabs, or nothing. -/
def IsPad (s : Text) : Prop := s.Each (isGap · = true)

/-- A text that can be written without quotes. -/
def IsBare (s : Text) : Prop := s ≠ [] ∧ s.Each fun c => isBlank c = false ∧ c ≠ '"'

/-- `Spells word s`: `s` is the word with some of its letters in the other case. -/
def Spells (word : String) (s : Text) : Prop := Text.sameAsciiCase s word.toList = true

instance : DecidablePred IsGap := fun _ => inferInstanceAs (Decidable (_ ∧ _))

instance : DecidablePred IsPad := fun s => inferInstanceAs (Decidable (s.Each _))

instance : DecidablePred IsBare := fun _ => inferInstanceAs (Decidable (_ ∧ _))

instance (word : String) : DecidablePred (Spells word) :=
  fun _ => inferInstanceAs (Decidable (_ = true))

/-- `Field value s`: the field `s` has this value. -/
inductive Field (value : Text) : Text → Prop
  | bare (h : IsBare value) : Field value value
  | quoted (h : '"' ∉ value) : Field value ('"' :: value ++ ['"'])

/-- `Flags flags s`: behind the fields there are these flags; without any there is nothing. -/
inductive Flags : Text → Text → Prop
  | absent : Flags [] []
  | present {gap flags : Text} (hgap : IsGap gap)
      (hflags : flags.Each fun c => Line.isFlagChar c = true ∧ c ≠ '"') :
      Flags flags (gap ++ ('[' :: flags ++ [']']))

/-! ### Directives on lines -/

/-- `TwoFields kind first second flags s`: a keyword, two fields with these values, and flags. -/
inductive TwoFields (kind : DirectiveKind) (first second flags : Text) : Text → Prop
  | mk {keyword gap₁ field₁ gap₂ field₂ brackets : Text} (hkeyword : Spells kind.name keyword)
      (hgap₁ : IsGap gap₁) (hfirst : Field first field₁) (hgap₂ : IsGap gap₂)
      (hsecond : Field second field₂) (hflags : Flags flags brackets) :
      TwoFields kind first second flags
        (keyword ++ (gap₁ ++ (field₁ ++ (gap₂ ++ (field₂ ++ brackets)))))

/-- The word that switches the engine on or off. -/
def switchWord (on : Bool) : String := if on then "on" else "off"

/-- `Written d s`: the text `s` is the directive `d`, which stands on a line. -/
inductive Written : Directive → Text → Prop
  | serverName {keyword gap name : Text} (hkeyword : Spells DirectiveKind.serverName.name keyword)
      (hgap : IsGap gap) (hname : IsBare name) :
      Written (.serverName name) (keyword ++ (gap ++ name))
  | rewriteEngine {keyword gap word : Text} {on : Bool}
      (hkeyword : Spells DirectiveKind.rewriteEngine.name keyword) (hgap : IsGap gap)
      (hword : Spells (switchWord on) word) : Written (.rewriteEngine on) (keyword ++ (gap ++ word))
  | condition {subject pattern flags s : Text} {c : Condition}
      (hfields : TwoFields .rewriteCond subject pattern flags s)
      (hbuild : Condition.build subject pattern flags = .ok c) : Written (.condition c) s
  | rule {pattern substitution flags s : Text} {r : Rule}
      (hfields : TwoFields .rewriteRule pattern substitution flags s)
      (hbuild : Rule.build pattern substitution flags = .ok r) : Written (.rule r) s

/-- `Line d l`: the line `l` holds the directive `d`. -/
inductive Line (d : Directive) : Text → Prop
  | mk {indent s pad : Text} (hindent : indent.Each (isBlank · = true)) (hwritten : Written d s)
      (hpad : IsPad pad) : Line d (indent ++ (s ++ pad))

/-- A line that is blank or a comment. -/
def Idle (l : Text) : Prop := Text.trimStart l = [] ∨ (Text.trimStart l).head? = some '#'

instance : DecidablePred Idle := fun _ => inferInstanceAs (Decidable (_ ∨ _))

/-! ### Blocks -/

/-- `Address ip s`: a virtual host with the address `s` is one for `ip`. -/
inductive Address : Wildcard Text → Text → Prop
  | star : Address .any "*".toList
  | default : Address .any "_default_".toList
  | plain {ip : Text} (hne : ip ≠ [])
      (hip : ip.Each fun c => Opening.isMarkerChar c = true ∧ c ≠ ':')
      (hquote : ip.head? ≠ some '"') (hbracket : ip.head? ≠ some '[') (hstar : ip ≠ "*".toList)
      (hdefault : ip ≠ "_default_".toList) : Address (.exactly ip) ip
  | bracketed {ip : Text} (hip : ip.Each fun c => c ≠ ']' ∧ c ≠ '>') :
      Address (.exactly ip) ('[' :: ip ++ [']'])

/-- `Port port s`: behind the address, `s` tells this port. A number has at most five digits. -/
inductive Port : Wildcard Nat → Text → Prop
  | absent : Port .any []
  | star : Port .any ":*".toList
  | number {digits : Text} (hne : digits ≠ []) (hdigits : digits.Each (·.isDigit = true))
      (hlength : digits.length ≤ 5) (hmax : Nat.ofDigitChars 10 digits 0 ≤ Text.maxPort) :
      Port (.exactly (Nat.ofDigitChars 10 digits 0)) (':' :: digits)

/-- `Marker kind make s`: the marker `s` opens a block of a kind, and `make` tells the directive
that the block is with its children. -/
inductive Marker : BlockKind → (List Directive → Directive) → Text → Prop
  | virtualHost {keyword gap address portText pad : Text} {ip : Wildcard Text} {port : Wildcard Nat}
      (hkeyword : Spells BlockKind.virtualHost.name keyword) (hgap : IsGap gap)
      (haddress : Address ip address) (hport : Port port portText) (hpad : IsPad pad) :
      Marker .virtualHost (.virtualHost ip port)
        ('<' :: (keyword ++ (gap ++ (address ++ (portText ++ (pad ++ ['>']))))))
  | ifModule {keyword gap module pad : Text} {negated : Bool}
      (hkeyword : Spells BlockKind.ifModule.name keyword) (hgap : IsGap gap) (hne : module ≠ [])
      (hmodule : module.Each (Opening.isMarkerChar · = true)) (hquote : module.head? ≠ some '"')
      (hnegation : negated = false → module.head? ≠ some '!') (hpad : IsPad pad) :
      Marker .ifModule (.ifModule negated module)
        ('<' ::
          (keyword ++ (gap ++ ((if negated then ['!'] else []) ++ (module ++ (pad ++ ['>']))))))

/-- `Opens kind make l`: the line `l` opens a block. -/
inductive Opens (kind : BlockKind) (make : List Directive → Directive) : Text → Prop
  | mk {indent s pad : Text} (hindent : indent.Each (isBlank · = true))
      (hmarker : Marker kind make s) (hpad : pad.Each (isBlank · = true)) :
      Opens kind make (indent ++ (s ++ pad))

/-- `Closes kind l`: the line `l` closes a block. -/
inductive Closes (kind : BlockKind) : Text → Prop
  | mk {indent keyword gap pad : Text} (hindent : indent.Each (isBlank · = true))
      (hkeyword : Spells kind.name keyword) (hgap : IsPad gap)
      (hpad : pad.Each (isBlank · = true)) :
      Closes kind (indent ++ ('<' :: '/' :: (keyword ++ (gap ++ ('>' :: pad)))))

/-- `Lines place ds ls`: the lines `ls` lay out the directives `ds` in a block of the kind
`place`. -/
inductive Lines : BlockKind → List Directive → List Text → Prop
  | nil {place : BlockKind} : Lines place [] []
  | idle {place : BlockKind} {ds : List Directive} {l : Text} {ls : List Text} (hl : Idle l)
      (hls : Lines place ds ls) : Lines place ds (l :: ls)
  | line {place : BlockKind} {d : Directive} {ds : List Directive} {l : Text} {ls : List Text}
      (hl : Line d l) (hls : Lines place ds ls) : Lines place (d :: ds) (l :: ls)
  | block {place kind : BlockKind} {make : List Directive → Directive}
      {children ds : List Directive} {first last : Text} {inside ls : List Text}
      (hplace : place = .virtualHost → kind ≠ .virtualHost) (hfirst : Opens kind make first)
      (hinside : Lines kind children inside) (hlast : Closes kind last) (hls : Lines place ds ls) :
      Lines place (make children :: ds) (first :: (inside ++ last :: ls))

end UrlRewrite.Layout
