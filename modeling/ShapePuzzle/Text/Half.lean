/-!
# Halves of pairs

A character beyond 16 bits is written as a pair of 16-bit units, and a document may hold one half of a pair
alone. In a text such a half stands as the private character `0x100000` above it, in a block that is left to
halves.
-/
namespace ShapePuzzle

def isHighUnit (u : Nat) : Bool := 0xd800 ≤ u && u < 0xdc00

def isLowUnit (u : Nat) : Bool := 0xdc00 ≤ u && u < 0xe000

/-- The character that a pair stands for. -/
def joinUnits (high low : Nat) : Char :=
  Char.ofNat (0x10000 + (high - 0xd800) * 0x400 + (low - 0xdc00))

/-- A half that stands alone. -/
def halfChar (u : Nat) : Char := Char.ofNat (0x100000 + u)

def isHalf (c : Char) : Bool := 0x10d800 ≤ c.toNat && c.toNat < 0x10e000

def hasHalf (s : String) : Bool := s.toList.any isHalf

/-- The code of a character; a half has the code of its unit. -/
def codeOf (c : Char) : Nat :=
  if isHalf c then c.toNat - 0x100000 else c.toNat

/-- A text is spelled by the codes of its characters. -/
def codes (s : String) : List Nat := s.toList.map codeOf

/-- The character of a single unit or code; nothing has a code beyond the last one. -/
def charOfCode? (n : Nat) : Option Char :=
  if isHighUnit n || isLowUnit n then some (halfChar n)
  else if n < 0x110000 then some (Char.ofNat n)
  else none

end ShapePuzzle
