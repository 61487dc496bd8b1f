import ShapePuzzle.Grid
import ShapePuzzle.Schema.Scalar
import ShapePuzzle.Template.Placeholder

/-!
# Cells in a document and snapshots of a grid
-/
namespace ShapePuzzle

def Checked.toExcept {α : Type} : Checked α → Except Fault α
  | good a => .ok a
  | bad issues => .error (.invalid issues)

def Position.read (fs : Fields Value) : Checked Position :=
  Position.mk <$> fs.required "row" Value.asInteger <*> fs.required "col" Value.asInteger

def Position.toValue (p : Position) : Value :=
  .object [("row", .int p.row), ("col", .int p.col)]

namespace Cell

/-- Fields that a cell does not have are passed over. -/
def read (fs : Fields Value) : Checked Cell :=
  (fun s c n p => ⟨.text s, .text c, .int n, p⟩) <$> fs.required "shape" Value.asText <*>
    fs.required "color" Value.asText <*> fs.required "number" Value.asInteger <*>
    fs.required "position" (Value.asRecord Position.read)

def toValue (c : Cell) : Value :=
  .object [("shape", c.shape), ("color", c.color), ("number", c.number), ("position", c.position.toValue)]

/-- A cell made from loose values at a known position. -/
def check (shape color number : Value) (position : Position) : Checked Cell :=
  read [("shape", shape), ("color", color), ("number", number), ("position", position.toValue)]

def snapshot (c : Cell) : Except Fault Value := do
  return .object [("shape", c.shape), ("color", c.color), ("color_name", ← colorName c.color),
    ("number", c.number), ("row", .int c.position.row), ("col", .int c.position.col)]

end Cell

namespace Snapshot

def field (v : Value) (k : String) : Except Fault Value :=
  match v with
  | .object fs => match fs.lookup k with
    | some w => .ok w
    | none => .error .noSuchField
  | _ => .error .kindMismatch

/-- An item with the row and the column it is sorted by. -/
structure Entry where
  row : Value
  col : Value
  item : Value

def entry (v : Value) : Except Fault Entry := do
  return ⟨← field v "row", ← field v "col", v⟩

def entries : List Value → Except Fault (List Entry)
  | [] => .ok []
  | v :: vs => do
    let e ← entry v
    return e :: (← entries vs)

/-- Whether one entry stands before another: by row, then by column. -/
def Entry.before (a b : Entry) : Except Fault Bool :=
  Edge.demand (Value.orderedItems? Ordering.isLT [a.row, a.col] [b.row, b.col])

/-- Puts an entry behind those that do not stand after it. -/
def insert (e : Entry) : List Entry → Except Fault (List Entry)
  | [] => .ok [e]
  | x :: xs => do
    if ← e.before x then return e :: x :: xs
    return x :: (← insert e xs)

def sort : List Entry → List Entry → Except Fault (List Entry)
  | sorted, [] => .ok sorted
  | sorted, e :: es => do sort (← insert e sorted) es

/-- The position is read before the rest of the cell. -/
def Entry.cell (e : Entry) : Except Fault Cell := do
  let shape ← field e.item "shape"
  let color ← field e.item "color"
  let number ← field e.item "number"
  let position ← (Position.read [("row", e.row), ("col", e.col)]).toExcept
  (Cell.check shape color number position).toExcept

def cells : List Entry → Except Fault (List Cell)
  | [] => .ok []
  | e :: es => do
    let c ← e.cell
    return c :: (← cells es)

/-- The nearest whole number to the square root. -/
def sideFrom (count : Nat) : Nat → Nat
  | 0 => 0
  | k + 1 => if k * (k + 1) < count then k + 1 else sideFrom count k

def side (count : Nat) : Nat := sideFrom count count

end Snapshot

namespace Grid

def snapshot (g : Grid) : Except Fault (List Value) :=
  g.cells.mapM Cell.snapshot

/-- The grid of a snapshot, in whatever order its items come. -/
def ofSnapshot (items : List Value) : Except Fault Grid := do
  let sorted ← Snapshot.sort [] (← Snapshot.entries items)
  ofCells (Snapshot.side items.length) (← Snapshot.cells sorted)

end Grid
end ShapePuzzle
