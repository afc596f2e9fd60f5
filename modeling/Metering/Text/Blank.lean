import Metering.Text.CharClass

/-! # Blanks

The characters with the Unicode property `White_Space`, which separate the parts of a formula and
are trimmed from the ends of settings and quantities.

* `isBlank` — the class itself; it is small, so it can be computed with in proofs;
* `skipBlanks`, `trimBlanks` — dropping blanks at the front, and at both ends;
* `trim` — `trimBlanks` on texts.
-/

namespace Metering.Text

/-- The characters with the property `White_Space`. -/
def blankTable : CharClass where
  ranges :=
    [(0x9, 0xd), (0x20, 0x20), (0x85, 0x85), (0xa0, 0xa0), (0x1680, 0x1680), (0x2000, 0x200a),
      (0x2028, 0x2029), (0x202f, 0x202f), (0x205f, 0x205f), (0x3000, 0x3000)]

/-- Has the property `White_Space`. -/
def isBlank (c : Char) : Bool :=
  blankTable.contains c

/-- The text without the blanks at its front. -/
def skipBlanks (cs : List Char) : List Char :=
  cs.dropWhile isBlank

/-- The text without the blanks at its ends. -/
def trimBlanks (cs : List Char) : List Char :=
  (skipBlanks (skipBlanks cs).reverse).reverse

def trim (s : String) : String :=
  String.ofList (trimBlanks s.toList)

theorem skipBlanks_length_le (cs : List Char) : (skipBlanks cs).length ≤ cs.length :=
  (List.dropWhile_sublist isBlank).length_le

end Metering.Text
