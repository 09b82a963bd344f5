/-!
# Blank characters

The characters with the Unicode property `White_Space`, and trimming a text of them.

    isBlank c ↔ c lies in one of `blankRanges`
    trim keeps everything between the first and the last character that is not blank
-/

namespace FrameBus.Text

/-! ## Algorithm -/

/-- Closed ranges of code points with the property `White_Space`, ascending. -/
def blankRanges : List (Nat × Nat) :=
  [(0x9, 0xD), (0x20, 0x20), (0x85, 0x85), (0xA0, 0xA0), (0x1680, 0x1680), (0x2000, 0x200A),
   (0x2028, 0x2029), (0x202F, 0x202F), (0x205F, 0x205F), (0x3000, 0x3000)]

def isBlank (c : Char) : Bool :=
  blankRanges.any fun r => decide (r.1 ≤ c.toNat) && decide (c.toNat ≤ r.2)

def trimStart (cs : List Char) : List Char := cs.dropWhile isBlank

def trimEnd (cs : List Char) : List Char := (cs.reverse.dropWhile isBlank).reverse

/-- The text without the blank characters at both of its ends. -/
def trim (cs : List Char) : List Char := trimEnd (trimStart cs)

end FrameBus.Text
