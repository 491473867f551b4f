/-!
White space, as the Unicode property has it, and trimming. Trimming takes characters off the
ends of a text and leaves the inside alone.
-/

namespace Formula.Text

def isBlank (char : Char) : Bool :=
  let point := char.toNat
  (9 ≤ point && point ≤ 13) || point == 0x20 || point == 0x85 || point == 0xa0 ||
    point == 0x1680 || (0x2000 ≤ point && point ≤ 0x200a) || point == 0x2028 ||
    point == 0x2029 || point == 0x202f || point == 0x205f || point == 0x3000

def trimStart (chars : List Char) : List Char :=
  chars.dropWhile isBlank

def trimEnd (chars : List Char) : List Char :=
  (trimStart chars.reverse).reverse

def trim (chars : List Char) : List Char :=
  trimEnd (trimStart chars)

end Formula.Text
