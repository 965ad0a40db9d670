import UrlRewrite.Flag.Basic
import UrlRewrite.Text.CaseFold

/-!
# Flags of conditions

The flags that a condition can carry. None of them takes an argument.
-/

namespace UrlRewrite

/-- A flag of a condition, which is also its kind. -/
inductive ConditionFlag where
  | ignoreCase
  | orNext
  | noVary
deriving DecidableEq, Repr

namespace ConditionFlag

def all : List ConditionFlag := [ignoreCase, orNext, noVary]

/-- The words that stand for a flag. -/
def words : ConditionFlag → List String
  | ignoreCase => ["NC", "nocase"]
  | orNext => ["OR", "ornext"]
  | noVary => ["NV", "novary"]

/-- The flag, if the text is one of its words. -/
def read? (k : ConditionFlag) (s : Text) : Option (Except FlagError ConditionFlag) :=
  if k.words.any fun w => Text.isKeyword w.toList s then some (.ok k) else none

instance : FlagFamily ConditionFlag where
  Kind := ConditionFlag
  title := "ConditionFlag"
  kinds := all
  kinds_nodup := by decide
  kind := id
  read? := read?

end ConditionFlag

end UrlRewrite
