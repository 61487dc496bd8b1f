import ShapePuzzle.Text.Ranges

/-!
# Blank characters

Two sets: the blanks around a name, which take in the four separators from `\x1c` on, and the blanks
around a written number, which do not.
-/
namespace ShapePuzzle

def isBlank (c : Char) : Bool :=
  inRanges c.toNat [(0x9, 0xd), (0x1c, 0x20), (0x85, 0x85), (0xa0, 0xa0), (0x1680, 0x1680), (0x2000, 0x200a),
    (0x2028, 0x2029), (0x202f, 0x202f), (0x205f, 0x205f), (0x3000, 0x3000)]

def isNumberBlank (c : Char) : Bool :=
  isBlank c && !(0x1c ≤ c.toNat && c.toNat ≤ 0x1f)

def trimChars (blank : Char → Bool) (cs : List Char) : List Char :=
  ((cs.dropWhile blank).reverse.dropWhile blank).reverse

def trimBlanks (s : String) : String :=
  String.ofList (trimChars isBlank s.toList)

end ShapePuzzle
