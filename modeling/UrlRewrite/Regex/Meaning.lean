import UrlRewrite.Regex.Tree
import UrlRewrite.Regex.Expr
import UrlRewrite.Text.CaseFold
import UrlRewrite.Text.CharClass

/-!
# The meaning of a written expression

`Tree.meaning` works the modes of a written expression into it. A mode switch such as `(?i)` holds
from where it stands to the end of the group around it, also in the branches that follow.

Without Unicode mode, classes are sets of ASCII characters. A class that would have to match a part
of a character, such as a negated one, has no meaning then (`none`), nor has the dot.
-/

namespace UrlRewrite.Regex

/-- The modes in force at a place of an expression. -/
structure Mode where
  ignoreCase : Bool := false
  multiLine : Bool := false
  dotAll : Bool := false
  swapGreed : Bool := false
  crlf : Bool := false
  unicode : Bool := true
deriving DecidableEq, Repr

namespace Mode

def switch (m : Mode) (change : ModeChange) : Mode :=
  match change.flag with
  | .ignoreCase => { m with ignoreCase := change.on }
  | .multiLine => { m with multiLine := change.on }
  | .dotAll => { m with dotAll := change.on }
  | .swapGreed => { m with swapGreed := change.on }
  | .crlf => { m with crlf := change.on }
  | .unicode => { m with unicode := change.on }
  | .verbose => m

def switchAll (m : Mode) (changes : List ModeChange) : Mode := changes.foldl switch m

/-- The set as the mode for letter case wants it. -/
def closeCase (m : Mode) (set : CharSet) : CharSet :=
  if !m.ignoreCase then set else if m.unicode then set.closeCase else set.closeAsciiCase

/-- The complement of a set if it is to be negated; only in Unicode mode there is one. -/
def negate? (m : Mode) (negated : Bool) (set : CharSet) : Option CharSet :=
  if !negated then some set else if m.unicode then some set.compl else none

end Mode

/-- The set of `\d`, `\s` or `\w` among the ASCII characters. -/
def asciiClass : ShortClass → CharSet
  | .digit => ⟨[48, 58]⟩
  | .space => ⟨[9, 14, 32, 33]⟩
  | .word => ⟨[48, 58, 65, 91, 95, 96, 97, 123]⟩

/-- The set of `\d`, `\s` or `\w` among all characters. -/
def unicodeClass : ShortClass → CharSet
  | .digit => CharSet.digits
  | .space => CharSet.blanks
  | .word => CharSet.wordChars

/-- The set of `\d`, `\s` or `\w`, or its complement. -/
def ShortClass.meaning (m : Mode) (s : ShortClass) (negated : Bool) : Option CharSet :=
  m.negate? negated (if m.unicode then unicodeClass s else asciiClass s)

/-- The set of `\p{..}` or its complement. -/
def PropertyName.meaning (m : Mode) (name : PropertyName) (negated : Bool) : Option CharSet := do
  if !m.unicode then none
  let set ← match name with
    | .single n => CharSet.named? n
    | .valued property value => CharSet.valued? property value
  m.negate? negated (m.closeCase set)

/-- A character as member of a class. -/
def memberOf? (m : Mode) (c : Char) : Option Char :=
  if m.unicode || c.toNat < 128 then some c else none

/-- The two sides of an operator between sets. -/
def SetOp.apply : SetOp → CharSet → CharSet → CharSet
  | .inter => CharSet.inter
  | .diff => CharSet.diff
  | .symmDiff => CharSet.symmDiff

mutual

/-- The set that stands between brackets. -/
def ClassTree.meaning (m : Mode) : ClassTree → Option CharSet
  | .literal c _ => (memberOf? m c).map CharSet.single
  | .range first _ last _ => do some (CharSet.range (← memberOf? m first) (← memberOf? m last))
  | .named set negated => m.negate? negated (m.closeCase set)
  | .short s negated => s.meaning m negated
  | .property name negated => name.meaning m negated
  | .bracket negated body => do m.negate? negated (m.closeCase (← ClassTree.meaning m body))
  | .union items => ClassTree.unionMeaning m items
  | .op o left right => do
    some (o.apply (m.closeCase (← ClassTree.meaning m left))
      (m.closeCase (← ClassTree.meaning m right)))

def ClassTree.unionMeaning (m : Mode) : List ClassTree → Option CharSet
  | [] => some CharSet.empty
  | item :: items => do
    some (CharSet.union (← ClassTree.meaning m item) (← ClassTree.unionMeaning m items))

end

/-- The condition that an anchor stands for. -/
def Anchor.meaning (m : Mode) : Anchor → Look
  | .lineStart =>
    if !m.multiLine then .textStart else if m.crlf then .crlfStart else .lineStart
  | .lineEnd =>
    if !m.multiLine then .textEnd else if m.crlf then .crlfEnd else .lineEnd
  | .textStart => .textStart
  | .textEnd => .textEnd
  | .wordBorder => .wordBorder (!m.unicode)
  | .noWordBorder => .noWordBorder (!m.unicode)
  | .wordStart => .wordStart (!m.unicode)
  | .wordEnd => .wordEnd (!m.unicode)
  | .wordStartHalf => .wordStartHalf (!m.unicode)
  | .wordEndHalf => .wordEndHalf (!m.unicode)

/-- What the dot matches. -/
def dotMeaning (m : Mode) : Option Expr :=
  if !m.unicode then none
  else if m.dotAll then some (.oneOf CharSet.all false)
  else if m.crlf then some (.oneOf (CharSet.ofCodePoints [10, 13]).compl false)
  else some (.oneOf (CharSet.single '\n').compl false)

/-- A literal character, in all its cases if case is ignored. Outside Unicode mode a literal written
with two digits is a byte, and must be an ASCII character. -/
def literalMeaning (m : Mode) (c : Char) (asByte : Bool) : Option Expr :=
  if m.unicode then
    some (if m.ignoreCase then .ofSet (CharSet.single c).closeCase false else .literal [c])
  else if 128 ≤ c.toNat then (if asByte then none else some (.literal [c]))
  else some (.ofSet (m.closeCase (CharSet.single c)) true)

/-- The expression that an atom stands for. -/
def Atom.meaning (m : Mode) : Atom → Option Expr
  | .literal c asByte => literalMeaning m c asByte
  | .dot => dotMeaning m
  | .anchor a => some (.look (a.meaning m))
  | .short s negated => (s.meaning m negated).map (.ofSet · (!m.unicode))
  | .property name negated => (name.meaning m negated).map (.ofSet · (!m.unicode))

mutual

/-- The expression that a tree stands for where the modes `m` hold, and the modes behind it. -/
def Tree.meaningIn (m : Mode) : Tree → Option (Expr × Mode)
  | .empty => some (.empty, m)
  | .atom a => (a.meaning m).map (·, m)
  | .modes changes => some (.empty, m.switchAll changes)
  | .bracket negated body => do
    let set ← m.negate? negated (m.closeCase (← body.meaning m))
    some (.ofSet set (!m.unicode), m)
  | .repeated least most greedy body => do
    let (e, n) ← Tree.meaningIn m body
    some (.repeated' least most (greedy != n.swapGreed) e, n)
  | .capture index body => do
    let (e, _) ← Tree.meaningIn m body
    some (.capture index e, m)
  -- modes that are switched inside a group do not hold behind it
  | .group changes body => do
    let (e, _) ← Tree.meaningIn (m.switchAll changes) body
    some (e, m)
  | .concat parts => do
    let (es, n) ← Tree.meaningList m parts
    some (.concat' es, n)
  | .alternate branches => do
    let (es, n) ← Tree.meaningList m branches
    some (.alternate' es, n)

def Tree.meaningList (m : Mode) : List Tree → Option (List Expr × Mode)
  | [] => some ([], m)
  | t :: ts => do
    let (e, n) ← Tree.meaningIn m t
    let (es, k) ← Tree.meaningList n ts
    some (e :: es, k)

end

/-- The expression that a tree stands for, read with or without regard to case. -/
def Tree.meaning (ignoreCase : Bool) (tree : Tree) : Option Expr :=
  (tree.meaningIn { ignoreCase := ignoreCase }).map (·.1)

end UrlRewrite.Regex
