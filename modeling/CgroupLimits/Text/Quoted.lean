import CgroupLimits.Text.Basic
import CgroupLimits.Text.DefaultIgnorable
import CgroupLimits.Text.GraphemeExtend
import CgroupLimits.Text.Unprintable

/-!
# Quoted text

Messages quote the texts that they carry, so that a line break, a quote or a
terminal escape inside such a text cannot be taken for a part of the message.
Inside the quotes a quote and a backslash follow a backslash, four control
characters have a short form, and every other character that does not show on
its own, because it attaches to another, has no glyph or is ignored, is given
by its number.
-/

set_option autoImplicit false

namespace CgroupLimits

/-- The ranges ascend, so the search ends at the first one above `n`. -/
def inRanges (n : Nat) : List (Nat × Nat) → Bool
  | [] => false
  | (first, last) :: rest =>
    if n < first then false else if n ≤ last then true else inRanges n rest

namespace Quoted

/-- The halfwidth sound marks have the property Grapheme_Extend, but they are
letters with a cell of their own. -/
def isSoundMark (c : Char) : Bool := c.toNat == 0xFF9E || c.toNat == 0xFF9F

def attaches (c : Char) : Bool := inRanges c.toNat graphemeExtendRanges && !isSoundMark c

def isPlain (c : Char) : Bool :=
  !(attaches c || inRanges c.toNat unprintableRanges || inRanges c.toNat defaultIgnorableRanges)

def byNumber (c : Char) : Text :=
  '\\' :: 'u' :: '\x7b' :: (Nat.toDigits 16 c.toNat ++ ['\x7d'])

def escapeChar (c : Char) : Text :=
  if c = '\"' then ['\\', '\"']
  else if c = '\\' then ['\\', '\\']
  else if c = '\x00' then ['\\', '0']
  else if c = '\t' then ['\\', 't']
  else if c = '\r' then ['\\', 'r']
  else if c = '\n' then ['\\', 'n']
  else if isPlain c then [c]
  else byNumber c

end Quoted

def Text.quoted (s : Text) : Text := '\"' :: (s.flatMap Quoted.escapeChar ++ ['\"'])

end CgroupLimits
