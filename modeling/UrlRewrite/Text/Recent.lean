/-!
# Recent characters

Characters that version 17.0 of the Unicode standard assigned. The names of groups and quoted texts
know them; the named sets of characters do not. Each table holds the distances between the borders
of the set (`CharSet.ofDistances`).
-/

namespace UrlRewrite.Text

/-- The alphabetic characters among them. -/
def recentLetters : String :=
  "2191 1 972 1 127 1 39665 2 2 1 1 1 28 1 24910 26 1387 3 50 2 3172 8 584 44 20676 25 2 25 286 5
   6145 8 1289 22 97 115 22733 31 1 22 8 2 53306 6 5986 12 21762 4298"

/-- The numeric characters among them. -/
def recentNumbers : String :=
  "73184 10 21002 3"

/-- Those with a visible form of their own. -/
def recentVisible : String :=
  "2191 1 972 1 127 1 5092 1 2772 1 31799 2 2 1 1 1 28 1 21457 16 445 2 54 7 2929 26 1387 3 8 9
   3208 1 3 1 1 1 584 44 4 10 20662 25 2 25 286 5 6145 8 1289 22 97 115 16135 3 445 23 15 17 6095
   31 1 3 1 2 1 7 2 5 9 2 4056 1 158 4 341 9 379 4 50 1 3 1 57 1 4 1 28 1 4 1 266 1 47935 6 5986
   12 21762 4298"

end UrlRewrite.Text
