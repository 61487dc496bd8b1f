import ShapePuzzle.Value.Basic

/-!
# Cells and the domains of their properties
-/
namespace ShapePuzzle

inductive Property where
  | shape | color | number
  deriving DecidableEq, Inhabited

def shapes : List String := ["circle", "square", "triangle"]

/-- The colors with their names. -/
def palette : Fields String :=
  [("#ff82a9", "Pink"), ("#7ed957", "Green"), ("#6ecbff", "Sky Blue"), ("#ffd966", "Yellow"),
    ("#b07bff", "Purple")]

def colors : List String := palette.keys

def lowestNumber : Int := 1
def highestNumber : Int := 10

def numbers : List Int := [1, 2, 3, 4, 5, 6, 7, 8, 9, 10]

namespace Property

def name : Property → String
  | shape => "shape"
  | color => "color"
  | number => "number"

/-- In the order of their names. -/
def all : List Property := [color, number, shape]

def ofName? (s : String) : Option Property :=
  all.find? fun p => p.name = s

theorem mem_all (p : Property) : p ∈ all := by
  cases p <;> decide

@[simp] theorem ofName?_name (p : Property) : ofName? p.name = some p := by
  cases p <;> decide

def domain : Property → List Value
  | shape => shapes.map .text
  | color => colors.map .text
  | number => numbers.map .int

end Property

structure Position where
  row : Int
  col : Int
  deriving DecidableEq, Inhabited

/-- A cell starts with values of the domains, yet an action may leave any value in it. -/
structure Cell where
  shape : Value
  color : Value
  number : Value
  position : Position
  deriving Inhabited

namespace Cell

def get (c : Cell) : Property → Value
  | .shape => c.shape
  | .color => c.color
  | .number => c.number

def set (c : Cell) (p : Property) (v : Value) : Cell :=
  match p with
  | .shape => { c with shape := v }
  | .color => { c with color := v }
  | .number => { c with number := v }

@[simp] theorem get_set_self (c : Cell) (p : Property) (v : Value) : (c.set p v).get p = v := by
  cases p <;> rfl

@[simp] theorem set_get_self (c : Cell) (p : Property) : c.set p (c.get p) = c := by
  cases p <;> rfl

theorem get_set_of_ne (c : Cell) {p q : Property} (h : q ≠ p) (v : Value) : (c.set p v).get q = c.get q := by
  cases p <;> cases q <;> first | rfl | exact absurd rfl h

@[simp] theorem position_set (c : Cell) (p : Property) (v : Value) : (c.set p v).position = c.position := by
  cases p <;> rfl

end Cell
end ShapePuzzle
