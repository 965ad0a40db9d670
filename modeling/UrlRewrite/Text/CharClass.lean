import UrlRewrite.Text.Blank
import UrlRewrite.Text.CharSet
import UrlRewrite.Text.Category
import UrlRewrite.Text.Script
import UrlRewrite.Text.Property
import UrlRewrite.Text.Age
import UrlRewrite.Text.Break
import UrlRewrite.Text.Recent

/-!
# Named sets of characters

Sets of characters found by the name of a binary property, a general category or a script
(`CharSet.named?`), or by the name of a property and that of one of its values (`CharSet.valued?`).
Names are compared loosely: case, spaces, underscores and hyphens do not count, nor does an initial
`is`.

The sets that the grammars of this library use are constants: decimal digits, the characters of
words, letters, and the characters that quoting has to escape. `isDigit` and `isWord` answer for
ASCII characters without their tables.
-/

namespace UrlRewrite

namespace CharSet

/-- The form of a name in which two spellings of it agree. -/
def looseName (name : Text) : Text :=
  let initial := (name.take 2).map Char.toLower == ['i', 's']
  let rest := if initial then name.drop 2 else name
  let kept :=
    (rest.filter fun c => c.toNat < 128 && c != ' ' && c != '_' && c != '-').map Char.toLower
  if initial && kept == ['c'] then "isc".toList else kept

/-- The row with that name, which is given in its loose form. -/
def row? {α : Type} (rows : List (List String × α)) (name : Text) : Option α :=
  (rows.find? fun row => row.1.any fun n => n.toList == name).map (·.2)

/-- The set of the row with that name. -/
def tabled? (table : List (List String × String)) (name : Text) : Option CharSet :=
  (row? table name).map ofDistances

/-- The union of the rows with one of those names. -/
def unionOf (table : List (List String × String)) (names : List String) : CharSet :=
  names.foldl (fun s n => (tabled? table n.toList).elim s s.union) empty

/-- The characters whose category is neither a letter, a mark, a number, a punctuation, a symbol nor
a separator. -/
def others : CharSet :=
  compl (Text.categoryGroups.foldl (fun s g => s.union (unionOf Text.categoryTable g.2)) empty)

/-- The characters without a category of their own. -/
def unassigned : CharSet := diff others (unionOf Text.categoryTable ["cc", "cf", "co"])

/-- The set of a general category, of a group of them, or one of three sets that cut across. -/
def category? (name : Text) : Option CharSet :=
  if name = "any".toList then some all
  else if name = "ascii".toList then some ⟨[0, 128]⟩
  else if name = "assigned".toList then some (compl unassigned)
  else if name = "cn".toList ∨ name = "unassigned".toList then some unassigned
  else if name = "c".toList ∨ name = "other".toList then some others
  else
    match tabled? Text.categoryTable name with
    | some set => some set
    | none => (row? Text.categoryGroups name).map (unionOf Text.categoryTable)

/-- The set of the characters written in a script. -/
def script? (name : Text) : Option CharSet := tabled? Text.scriptTable name

/-- The set of the characters written in a script, those that scripts share included. -/
def extendedScript? (name : Text) : Option CharSet :=
  match row? Text.scriptTable name with
  | none => none
  | some table =>
    -- the two tables list the same names for a script
    some (ofDistances ((row? Text.scriptExtensionTable name).getD table))

/-- The set of the characters with a binary property. -/
def property? (name : Text) : Option CharSet := tabled? Text.propertyTable name

/-- The set of the characters that a version has or an earlier one. -/
def age? (name : Text) : Option CharSet :=
  let later := Text.ageTable.dropWhile fun row => !row.1.any fun n => n.toList == name
  match later with
  | [] => none
  | row :: _ =>
    let earlier := Text.ageTable.takeWhile fun row => !row.1.any fun n => n.toList == name
    some ((earlier.map (·.2)).foldl (fun s t => s.union (ofDistances t)) (ofDistances row.2))

/-- The set named by a single word: a binary property, else a category, else a script. No name is
shared between the three. -/
def named? (name : Text) : Option CharSet :=
  let n := looseName name
  (property? n).or ((category? n).or (script? n))

/-- The set named by a property and one of its values. -/
def valued? (property value : Text) : Option CharSet :=
  let p := looseName property
  let v := looseName value
  let is (names : List String) := names.any fun n => n.toList == p
  if is ["gc", "generalcategory"] then category? v
  else if is ["sc", "script"] then script? v
  else if is ["scx", "scriptextensions"] then extendedScript? v
  else if is ["age"] then age? v
  else if is ["gcb", "graphemeclusterbreak"] then tabled? Text.graphemeBreakTable v
  else if is ["wb", "wordbreak"] then tabled? Text.wordBreakTable v
  else if is ["sb", "sentencebreak"] then tabled? Text.sentenceBreakTable v
  else none

/-- The decimal digits of all scripts. -/
def digits : CharSet := unionOf Text.categoryTable ["nd"]

/-- The characters with the property `Alphabetic`. -/
def alphabetic : CharSet := unionOf Text.propertyTable ["alphabetic"]

/-- The characters of words: letters, marks, digits, connecting punctuation and joiners. -/
def wordChars : CharSet :=
  (alphabetic.union (unionOf Text.categoryTable ["mn", "mc", "me", "nd", "pc"])).union
    (unionOf Text.propertyTable ["joinc"])

/-- The blanks, as a set. -/
def blanks : CharSet := unionOf Text.propertyTable ["wspace"]

/-- The letters, the recent ones included. -/
def letters : CharSet := alphabetic.union (ofDistances Text.recentLetters)

/-- Letters and characters with a numeric category, the recent ones included. -/
def lettersAndNumbers : CharSet :=
  (letters.union (unionOf Text.categoryTable ["nd", "nl", "no"])).union
    (ofDistances Text.recentNumbers)

/-- The characters without a visible form of their own: controls, unassigned and private characters,
separators other than the space, what is to be ignored in display, and what extends the character in
front of it, other than the two halfwidth sound marks. -/
def unprintable : CharSet :=
  let hidden := (others.union (unionOf Text.categoryTable ["zs", "zl", "zp"])).union
    (unionOf Text.propertyTable ["di", "grext"])
  let visible := (ofDistances Text.recentVisible).union (ofCodePoints [0x20, 0xFF9E, 0xFF9F])
  diff hidden visible

end CharSet

/-- A decimal digit of any script. -/
def isDigit (c : Char) : Bool :=
  if c.toNat < 128 then c.isDigit else CharSet.digits.contains c

/-- A character of a word. -/
def isWord (c : Char) : Bool :=
  if c.toNat < 128 then c.isAlphanum || c == '_' else CharSet.wordChars.contains c

/-- A character that quoting replaces by its code point. -/
def isUnprintable (c : Char) : Bool :=
  if c.toNat < 128 then c.toNat < 32 || c.toNat == 127 else CharSet.unprintable.contains c

end UrlRewrite
