import UrlRewrite.Text.Basic

/-!
# Data

The values that documents hold, whatever notation they are written in: test plans are read from such
values, and reports are given out as such values.

Numbers other than integers, and whatever else a notation knows (dates, say), are kept as they are
written: no document of this library has a place for them, so all that matters is that they are no
texts. Where nothing is written at all, as behind the colon of a row in YAML, the value is whatever
is wanted there: no value, an empty text, an empty list or an empty table.
-/

namespace UrlRewrite

/-- A value of a document. -/
inductive Datum where
  | null
  | boolean (b : Bool)
  | integer (n : Int)
  /-- A word that stands for something else than a text, as it is written. -/
  | other (written : Text)
  | text (s : Text)
  | list (items : List Datum)
  | table (rows : List (Text × Datum))
deriving Repr, Inhabited

namespace Datum

/-- The value of a text that may be missing. -/
def ofText? (s : Option Text) : Datum := s.elim null text

/-- The value of a number that may be missing. -/
def ofNat? (n : Option Nat) : Datum := n.elim null fun n => integer n

def ofTexts (items : List Text) : Datum := list (items.map text)

/-- A table with fixed keys. -/
def ofFields (fields : List (String × Datum)) : Datum :=
  table (fields.map fun f => (f.1.toList, f.2))

/-- A table of texts. -/
def ofRows (rows : List (Text × Text)) : Datum := table (rows.map fun r => (r.1, text r.2))

/-- The value that belongs to a key, if the key is there. -/
def field? (d : Datum) (key : String) : Option Datum :=
  match d with
  | table rows => rows.lookup key.toList
  | _ => none

/-- The value that belongs to a key. A key that is not there counts as null. -/
def field (d : Datum) (key : String) : Datum := (d.field? key).getD null

/-- Whether a value stands for the absence of one. -/
def isNull : Datum → Bool
  | null => true
  | other [] => true
  | _ => false

def boolean? : Datum → Option Bool
  | boolean b => some b
  | _ => none

def text? : Datum → Option Text
  | text s => some s
  | other [] => some []
  | _ => none

/-- The value of a natural number of at most `bound`. -/
def nat? (bound : Nat) : Datum → Option Nat
  | integer (.ofNat n) => if n ≤ bound then some n else none
  | _ => none

def list? : Datum → Option (List Datum)
  | list items => some items
  | other [] => some []
  | _ => none

def table? : Datum → Option (List (Text × Datum))
  | table rows => some rows
  | other [] => some []
  | _ => none

/-- A field is found by its name, and the first one counts. -/
@[simp] theorem field_ofFields_cons (name key : String) (d : Datum)
    (fields : List (String × Datum)) :
    (ofFields ((name, d) :: fields)).field key =
      if key = name then d else (ofFields fields).field key := by
  by_cases h : key = name
  · simp [ofFields, field, field?, h]
  · have h' : (key.toList == name.toList) = false :=
      beq_false_of_ne fun e => h (String.toList_inj.mp e)
    simp [ofFields, field, field?, h, h', List.lookup_cons]

end Datum

end UrlRewrite
