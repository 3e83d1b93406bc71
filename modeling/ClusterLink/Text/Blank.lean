/-!
# Blank characters

Addresses, preferences, version strings and header values are read with the blanks around them
dropped. A character is **blank** when it has the Unicode property `White_Space`, which is wider
than the six ASCII blanks: it has the no-break space and the spaces of the general punctuation
block. The property is stable, so the table below is complete.

`trim` drops blanks at both ends and keeps those in between.
-/

namespace ClusterLink.Text

/-- **The characters with the property `White_Space`**: tab to carriage return, the space, the next
line control, the no-break space, and the spaces and separators above U+1000. -/
def isBlank (c : Char) : Bool :=
  let n := c.toNat
  (0x09 ≤ n && n ≤ 0x0d) || n == 0x20 || n == 0x85 || n == 0xa0 || n == 0x1680
    || (0x2000 ≤ n && n ≤ 0x200a) || n == 0x2028 || n == 0x2029 || n == 0x202f || n == 0x205f
    || n == 0x3000

/-- The text without its longest suffix of characters that satisfy `p`. -/
def dropEndWhile (p : Char → Bool) (cs : List Char) : List Char :=
  (cs.reverse.dropWhile p).reverse

/-- The text without the blanks at either end. -/
def trim (cs : List Char) : List Char :=
  dropEndWhile isBlank (cs.dropWhile isBlank)

end ClusterLink.Text
