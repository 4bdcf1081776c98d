import CgroupLimits.Text.Basic

/-!
# Blank characters

A character is blank when it has the property White_Space; there are
twenty-five of them, from the tab to the ideographic space. Trimming takes
blanks off both ends, and words are the runs between blanks.
-/

set_option autoImplicit false

namespace CgroupLimits.Text
open CgroupLimits

def blankRanges : List (Nat × Nat) :=
  [(0x9, 0xD), (0x20, 0x20), (0x85, 0x85), (0xA0, 0xA0), (0x1680, 0x1680), (0x2000, 0x200A),
    (0x2028, 0x2029), (0x202F, 0x202F), (0x205F, 0x205F), (0x3000, 0x3000)]

def isBlank (c : Char) : Bool :=
  blankRanges.any fun r => decide (r.1 ≤ c.toNat) && decide (c.toNat ≤ r.2)

def trimEndWhen {α : Type} (p : α → Bool) (xs : List α) : List α :=
  (xs.reverse.dropWhile p).reverse

def trim (s : Text) : Text := trimEndWhen isBlank (s.dropWhile isBlank)

def isAllBlank (s : Text) : Bool := s.all isBlank

/-- The maximal runs without a blank. -/
def words (s : Text) : List Text := (splitWhen isBlank s).filter fun w => !w.isEmpty

end CgroupLimits.Text
