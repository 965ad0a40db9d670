import UrlRewrite.Text.CharSet

/-!
# Written regular expressions

The tree of a regular expression as it is written, before modes such as `(?i)` have been worked into
it: `Regex.Tree` for expressions and `Regex.ClassTree` for what stands between square brackets.

`Tree.depth` counts how deep the composite parts are nested. Expressions nested deeper than
`nestLimit` are refused.
-/

namespace UrlRewrite.Regex

/-- What a mode letter such as the `i` of `(?i)` switches. -/
inductive ModeFlag where
  | ignoreCase
  | multiLine
  | dotAll
  | swapGreed
  | unicode
  | crlf
  | verbose
deriving DecidableEq, Repr

/-- A mode letter, and whether it is switched on or off. -/
structure ModeChange where
  flag : ModeFlag
  on : Bool
deriving DecidableEq, Repr

/-- Conditions on a place between two characters. -/
inductive Anchor where
  | lineStart
  | lineEnd
  | textStart
  | textEnd
  | wordBorder
  | noWordBorder
  | wordStart
  | wordEnd
  | wordStartHalf
  | wordEndHalf
deriving DecidableEq, Repr

/-- The classes `\d`, `\s` and `\w`. -/
inductive ShortClass where
  | digit
  | space
  | word
deriving DecidableEq, Repr

/-- What stands in `\p{..}`: a name, or a property and its value. -/
inductive PropertyName where
  | single (name : Text)
  | valued (property value : Text)
deriving DecidableEq, Repr

/-- The smallest parts of an expression. A literal written as `\x` with two digits is marked,
because without Unicode mode it means a byte. -/
inductive Atom where
  | literal (c : Char) (asByte : Bool)
  | dot
  | anchor (a : Anchor)
  | short (s : ShortClass) (negated : Bool)
  | property (name : PropertyName) (negated : Bool)
deriving DecidableEq, Repr

/-- The operators between sets in square brackets. -/
inductive SetOp where
  | inter
  | diff
  | symmDiff
deriving DecidableEq, Repr

/-- What stands between square brackets. -/
inductive ClassTree where
  | literal (c : Char) (asByte : Bool)
  | range (first : Char) (firstAsByte : Bool) (last : Char) (lastAsByte : Bool)
  | named (set : CharSet) (negated : Bool)
  | short (s : ShortClass) (negated : Bool)
  | property (name : PropertyName) (negated : Bool)
  | bracket (negated : Bool) (body : ClassTree)
  | union (items : List ClassTree)
  | op (o : SetOp) (left right : ClassTree)

/-- An expression as written. -/
inductive Tree where
  | empty
  | atom (a : Atom)
  | modes (changes : List ModeChange)
  | bracket (negated : Bool) (body : ClassTree)
  | repeated (least : Nat) (most : Option Nat) (greedy : Bool) (body : Tree)
  | capture (index : Nat) (body : Tree)
  | group (changes : List ModeChange) (body : Tree)
  | concat (parts : List Tree)
  | alternate (branches : List Tree)

mutual

/-- How deep brackets, unions and operators are nested. -/
def ClassTree.depth : ClassTree → Nat
  | .bracket _ body => body.depth + 1
  | .union [] => 0
  | .union (item :: items) => max item.depth (ClassTree.maxDepth items) + 1
  | .op _ left right => max left.depth right.depth + 1
  | _ => 0

def ClassTree.maxDepth : List ClassTree → Nat
  | [] => 0
  | item :: items => max item.depth (ClassTree.maxDepth items)

end

mutual

/-- How deep the composite parts of an expression are nested. -/
def Tree.depth : Tree → Nat
  | .bracket _ body => body.depth + 1
  | .repeated _ _ _ body => body.depth + 1
  | .capture _ body => body.depth + 1
  | .group _ body => body.depth + 1
  | .concat parts => Tree.maxDepth parts + 1
  | .alternate branches => Tree.maxDepth branches + 1
  | _ => 0

def Tree.maxDepth : List Tree → Nat
  | [] => 0
  | part :: parts => max part.depth (Tree.maxDepth parts)

end

/-- The deepest nesting that is accepted. -/
def nestLimit : Nat := 250

/-- A union of items, given latest first; a single item stands for itself. -/
def ClassTree.ofItems : List ClassTree → ClassTree
  | [item] => item
  | items => .union items.reverse

/-- A concatenation of parts, given latest first; a single part stands for itself. -/
def Tree.ofParts : List Tree → Tree
  | [] => .empty
  | [part] => part
  | parts => .concat parts.reverse

end UrlRewrite.Regex
