import ShapePuzzle.Figure.Color
import ShapePuzzle.Grid
import ShapePuzzle.Template.Placeholder

/-!
# The figure of a grid

A scatter plot with a trace for every shape that is there; row 0 is at the top.
-/
namespace ShapePuzzle.Figure

/-- The shapes with their marker symbols, in the order of their traces. -/
def symbols : Fields String :=
  [("circle", "circle"), ("square", "square"), ("triangle", "triangle-up")]

def defaultTitle : String := "Which statement is true?"

def half (n : Int) : Value :=
  .float (.finite (mkRat (2 * n - 1) 2))

def hover (c : Cell) : Except Fault Value := do
  let name ← colorName c.color
  return .text ((← name.bare) ++ " " ++ (← c.shape.bare) ++ " (" ++ (← c.number.bare) ++ ")")

def trace (shape symbol : String) (cells : List Cell) : Except Fault Value := do
  let numbers ← cells.mapM fun c => c.number.bare
  let hovers ← cells.mapM hover
  let colors := cells.map Cell.color
  if colors.any fun v => match v with | .text s => !isColor s | _ => true then throw (.unshownColors colors)
  return .object [
    ("type", .text "scatter"),
    ("x", .list (cells.map fun c => .int c.position.col)),
    ("y", .list (cells.map fun c => .int c.position.row)),
    ("mode", .text "markers+text"),
    ("text", .list (numbers.map .text)),
    ("textposition", .text "middle center"),
    ("textfont", .object [("size", .int 18), ("color", .text "black")]),
    ("marker", .object [("symbol", .text symbol), ("size", .int 60), ("color", .list colors),
      ("line", .object [("width", .int 2), ("color", .text "#444")])]),
    ("hovertext", .list hovers),
    ("hoverinfo", .text "text"),
    ("name", .text shape)]

def traces (g : Grid) : Fields String → Except Fault (List Value)
  | [] => .ok []
  | (shape, symbol) :: rest => do
    let cells := g.cells.filter fun c => c.shape.same (.text shape)
    let others := traces g rest
    if cells.isEmpty then others
    else do
      let t ← trace shape symbol cells
      return t :: (← others)

def axis (start stop : Value) : Value :=
  .object [("visible", .bool false), ("range", .list [start, stop])]

def draw (g : Grid) (title : String) : Except Fault Value := do
  let data ← traces g symbols
  let near := half 0
  let far := half g.size
  return .object [
    ("data", .list data),
    ("layout", .object [
      ("title", .object [("text", .text title)]),
      ("showlegend", .bool false),
      ("plot_bgcolor", .text "white"),
      ("xaxis", axis near far),
      ("yaxis", axis far near),
      ("height", .int 600),
      ("width", .int 600)])]

end ShapePuzzle.Figure
