import ShapePuzzle.Luck

/-!
# Square grids of cells

Cells stand row by row. A grid of `size` holds `size * size` of them.
-/
namespace ShapePuzzle

structure Grid where
  size : Int
  cells : List Cell
  square : (cells.length : Int) = size * size

def standardSize : Int := 5

/-- The position of the `k`-th cell of a grid, counting row by row. -/
def Position.ofIndex (size : Int) (k : Nat) : Position :=
  ⟨Int.fdiv k size, Int.fmod k size⟩

namespace Grid

/-- The fault of a number of cells that does not fill a grid. -/
def wrongCount (size : Int) (count : Nat) : Fault :=
  .telling (fun shown => .telling (.cellCount shown · count) (Value.int (size * size)).quoted) (Value.int size).quoted

def ofCells (size : Int) (cells : List Cell) : Except Fault Grid :=
  if h : (cells.length : Int) = size * size then .ok ⟨size, cells, h⟩
  else .error (wrongCount size cells.length)

def randomCell (position : Position) {σ : Type} : Turn σ Cell := do
  let shape ← pick (Property.domain .shape)
  let color ← pick (Property.domain .color)
  let number ← pick (Property.domain .number)
  return ⟨shape, color, number, position⟩

def randomCells (size : Int) {σ : Type} : List Nat → Turn σ (List Cell)
  | [] => return []
  | k :: rest => do
    let cell ← randomCell (.ofIndex size k)
    return cell :: (← randomCells size rest)

def random (size : Int) {σ : Type} : Turn σ Grid := do
  let cells ← randomCells size (List.range (size * size).toNat)
  .ofExcept (ofCells size cells)

def put (g : Grid) (k : Nat) (c : Cell) : Grid :=
  ⟨g.size, g.cells.set k c, by rw [List.length_set]; exact g.square⟩

@[simp] theorem size_put (g : Grid) (k : Nat) (c : Cell) : (g.put k c).size = g.size := rfl

@[simp] theorem cells_put (g : Grid) (k : Nat) (c : Cell) : (g.put k c).cells = g.cells.set k c := rfl

def inBounds (g : Grid) (p : Position) : Bool :=
  0 ≤ p.row && p.row < g.size && 0 ≤ p.col && p.col < g.size

/-- Where the cell of a position stands in the row-by-row order. -/
def index? (g : Grid) (p : Position) : Option Nat :=
  if g.inBounds p then some (p.row * g.size + p.col).toNat else none

def cellAt? (g : Grid) (p : Position) : Option Cell := do
  g.cells[← g.index? p]?

/-- An index below nought counts from the end. -/
def cell (g : Grid) (k : Int) : Except Fault Cell :=
  let k := if k < 0 then k + g.cells.length else k
  match if k < 0 then none else g.cells[k.toNat]? with
  | some c => .ok c
  | none => .error .outOfRange

def numbered (g : Grid) : List (Cell × Nat) := g.cells.zipIdx

end Grid

inductive Direction where
  | right | left | above | below | topLeft | topRight | bottomLeft | bottomRight
  deriving DecidableEq, Inhabited

namespace Direction

def name : Direction → String
  | right => "right"
  | left => "left"
  | above => "above"
  | below => "below"
  | topLeft => "topLeft"
  | topRight => "topRight"
  | bottomLeft => "bottomLeft"
  | bottomRight => "bottomRight"

def all : List Direction :=
  [right, left, above, below, topLeft, topRight, bottomLeft, bottomRight]

/-- Rows down and columns to the right. -/
def offset : Direction → Int × Int
  | right => (0, 1)
  | left => (0, -1)
  | above => (-1, 0)
  | below => (1, 0)
  | topLeft => (-1, -1)
  | topRight => (-1, 1)
  | bottomLeft => (1, -1)
  | bottomRight => (1, 1)

def opposite : Direction → Direction
  | right => left
  | left => right
  | above => below
  | below => above
  | topLeft => bottomRight
  | topRight => bottomLeft
  | bottomLeft => topRight
  | bottomRight => topLeft

/-- Collections cannot name a direction at all. -/
def ofValue : Value → Except Fault Direction
  | .text s => match all.find? fun d => d.name = s with
    | some d => .ok d
    | none => .error (.unknownDirection (quoted s))
  | .list _ | .object _ => .error .kindMismatch
  | v => .error (.telling .unknownDirection v.quoted)

@[simp] theorem ofValue_name (d : Direction) : ofValue (.text d.name) = .ok d := by
  cases d <;> rfl

def step (d : Direction) (p : Position) : Position :=
  ⟨p.row + d.offset.1, p.col + d.offset.2⟩

@[simp] theorem opposite_opposite (d : Direction) : d.opposite.opposite = d := by
  cases d <;> rfl

/-- The way back leads to where it began. -/
theorem step_opposite (d : Direction) (p : Position) : d.opposite.step (d.step p) = p := by
  obtain ⟨row, col⟩ := p
  cases d <;> simp only [opposite, step, offset, Position.mk.injEq] <;> omega

end Direction

/-- Where the adjacent cell stands, or nothing at the boundary. -/
def Grid.neighborIndex? (g : Grid) (p : Position) (d : Direction) : Option Nat :=
  g.index? (d.step p)

inductive Edge where
  | left | right | top | bottom
  deriving DecidableEq, Inhabited

namespace Edge

def name : Edge → String
  | left => "left"
  | right => "right"
  | top => "top"
  | bottom => "bottom"

def all : List Edge := [left, right, top, bottom]

def ofValue (v : Value) : Except Fault Edge :=
  match all.find? fun e => v.same (.text e.name) with
  | some e => .ok e
  | none => .error (.telling .unknownDirection v.quoted)

@[simp] theorem ofValue_name (e : Edge) : ofValue (.text e.name) = .ok e := by
  cases e <;> rfl

/-- Whether a comparison holds; values without an order are a mismatch of kinds. -/
def demand : Option Bool → Except Fault Bool
  | some b => .ok b
  | none => .error .kindMismatch

def nearStart (place : Int) (depth : Value) : Except Fault Bool :=
  demand ((Value.int place).lt? depth)

def nearEnd (place : Int) (depth : Value) (size : Int) : Except Fault Bool :=
  match depth.number? with
  | none => .error .kindMismatch
  | some n => match (Number.int size).sub? n with
    | none => .error .numberTooLarge
    | some start => demand ((Value.int place).ge? (.number start))

/-- Whether a position lies within `depth` rows or columns of the edge. -/
def reaches (e : Edge) (p : Position) (depth : Value) (size : Int) : Except Fault Bool :=
  match e with
  | left => nearStart p.col depth
  | right => nearEnd p.col depth size
  | top => nearStart p.row depth
  | bottom => nearEnd p.row depth size

end Edge

def isInRegion (p : Position) (edge depth : Value) (size : Int) : Except Fault Bool := do
  (← Edge.ofValue edge).reaches p depth size

end ShapePuzzle
