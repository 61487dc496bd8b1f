import ShapePuzzle.Number.Shortest

/-!
# Numbers

A number is an integer of any size or a binary64 number. The two kinds compare by the value they stand for.
Integers may grow beyond what can be read or written.
-/
namespace ShapePuzzle

/-- Integers with more digits are neither read nor written. -/
def longestNumeral : Nat := 4300

inductive Number where
  | int (n : Int)
  | float (x : Binary64)
  deriving DecidableEq, Inhabited

/-- A place on the line of rationals with both ends added. -/
inductive Place where
  | bottom
  | at (q : Rat)
  | top

namespace Place

def compare : Place → Place → Ordering
  | bottom, bottom => .eq
  | bottom, _ => .lt
  | _, bottom => .gt
  | top, top => .eq
  | top, _ => .gt
  | _, top => .lt
  | «at» p, «at» q => if p < q then .lt else if p = q then .eq else .gt

end Place

def Binary64.place? : Binary64 → Option Place
  | .nan => none
  | .infinite true => some .bottom
  | .infinite false => some .top
  | .negativeZero => some (.at 0)
  | .finite q => some (.at q)

namespace Number

/-- Floats have a point from a thousandth up to sixteen places and `nan` and `inf` spelled out. -/
def layout : DecimalLayout where
  firstPlain := -3
  lastPlain := 16
  exponentMark := "e"
  exponentWidth := 2
  notANumber := "nan"
  infinity := "inf"

/-- Whether the number can be written. -/
def isShort : Number → Bool
  | int n => (Nat.toDigits 10 n.natAbs).length ≤ longestNumeral
  | float _ => true

def text? (n : Number) : Option String :=
  if n.isShort then
    some (match n with
      | int n => toString n
      | float x => layout.write x)
  else none

def place? : Number → Option Place
  | int n => some (.at n)
  | float x => x.place?

/-- The order of two numbers; one that is not a number has no order. -/
def compare? : Number → Number → Option Ordering
  | int m, int n => some (compare m n)
  | a, b => match a.place?, b.place? with
    | some p, some q => some (p.compare q)
    | _, _ => none

def equals (a b : Number) : Bool :=
  a.compare? b == some .eq

def isNaN : Number → Bool
  | float .nan => true
  | _ => false

def float? : Number → Option Binary64
  | int n => Binary64.ofInt? n
  | float x => some x

inductive Division where
  | whole
  | broken
  | byZero
  | tooLarge
  deriving DecidableEq

/-- Whether a float is a whole multiple of another. -/
def Division.ofFloats (x y : Binary64) : Division :=
  match y.value? with
  | some d =>
    if d = 0 then .byZero
    else match x.value? with
      | some q => if (q / d).den = 1 then .whole else .broken
      | none => .broken
  | none => if y = .nan then .broken else if x.value? = some 0 then .whole else .broken

/-- Whether dividing leaves nothing over. Integers divide exactly; a float makes both floats first. -/
def divide : Number → Number → Division
  | int m, int n => if n = 0 then .byZero else if m % n = 0 then .whole else .broken
  | a, b => match a.float?, b.float? with
    | some x, some y => .ofFloats x y
    | _, _ => .tooLarge

/-- The difference; a float makes both floats first, which an integer may be too large for. -/
def sub? : Number → Number → Option Number
  | int m, int n => some (int (m - n))
  | a, b => match a.float?, b.float? with
    | some x, some y => some (float (x.sub y))
    | _, _ => none

end Number
end ShapePuzzle
