import ShapePuzzle.Bank.Shorthand

/-!
# Hard templates
-/
namespace ShapePuzzle.Shipped

def nonColorShapeLeftNeighbor : Template where
  id := some "non-color-shape-left-neighbor"
  description := none
  placeholders := [("shape", .shape []), ("shape2", .shape ["shape"]), ("color", .color [])]
  fields := [.colorName "colorName" "color"]
  statement := {
    text := "Every \x7bshape\x7d that is not \x7bcolorName\x7d has a \x7bshape2\x7d directly to its left."
    formal :=
      "∀x ((Shape(x, \x7bshape\x7d) ∧ ¬Color(x, \x7bcolorName\x7d)) → ∃y (LeftOf(y, x) ∧ Shape(y, \x7bshape2\x7d)))"
    hint := "\x7bcolorName\x7d \x7bshape\x7ds are exempt from this rule." }
  rules := [
    .requirement {
      antecedent := some (.all [isDetail .shape "shape", .not (isDetail .color "color")])
      neighbor := {
        direction := word "left"
        conditions := [neighborIs .shape "shape2"]
        satisfy := [.set .shape (detail "shape2")]
        violation := some (.setDistinct .shape "shape2") }
      breakAntecedent := some (.set .color (detail "color")) }]

def shapeInRegionIsColor : Template where
  id := some "shape-in-region-is-color"
  description := none
  placeholders := [
    ("shape", .shape []),
    ("color", .color []),
    ("direction", .choice [.text "left", .text "right", .text "top", .text "bottom"]),
    ("size", .int (within 1 3))]
  fields := [.colorName "colorName" "color", .regionDescription "region" "direction" "size"]
  statement := {
    text := "Every \x7bshape\x7d in the \x7bregion\x7d is \x7bcolorName\x7d."
    formal :=
      "∀x ((Shape(x, \x7bshape\x7d) ∧ InRegion(x, \x7bdirection\x7d, \x7bsize\x7d)) → Color(x, \x7bcolorName\x7d))"
    hint := "Shapes outside the \x7bregion\x7d do not matter." }
  rules := [
    .implication {
      antecedent := some (.all [isDetail .shape "shape", .inRegion (detail "direction") (detail "size")])
      actions := [.set .color (detail "color")]
      breakAntecedent := none
      violation := some (.setDistinct .color "color") }]

def shapeColorThenColorParity : Template where
  id := some "shape-color-then-color-parity"
  description := none
  placeholders := [("shape", .shape []), ("color", .color []), ("parity", .parity)]
  fields := [
    .colorName "colorName" "color",
    .parityPredicate "parityLabel" "parity",
    .stringTemplate "colorClause" "every \x7bcolorName\x7d shape shows an \x7bparity\x7d number"]
  statement := {
    text := "All \x7bshape\x7ds are \x7bcolorName\x7d, and \x7bcolorClause\x7d."
    formal :=
      "∀x (Shape(x, \x7bshape\x7d) → Color(x, \x7bcolorName\x7d)) ∧ ∀x (Color(x, \x7bcolorName\x7d) → \x7bparityLabel\x7d(Number(x)))"
    hint := "Both halves must hold. Check the \x7bshape\x7ds, then every \x7bcolorName\x7d shape." }
  rules := [
    .implication {
      antecedent := some (isDetail .shape "shape")
      actions := [.set .color (detail "color")]
      breakAntecedent := none
      violation := some (.setDistinct .color "color") },
    .implication {
      antecedent := some (isDetail .color "color")
      actions := [.ensure (.parity (own .number) (detail "parity"))]
      breakAntecedent := none
      violation := some (.break (.parity (own .number) (detail "parity"))) }]

def shapeBelowNeighborColorComparison : Template where
  id := some "shape-below-neighbor-color-comparison"
  description := none
  placeholders := [
    ("shape", .shape []),
    ("color", .color []),
    ("comparison", .comparison comparisonWords),
    ("threshold", .number (within 2 9))]
  fields := [
    .colorName "colorName" "color",
    .comparisonWord "comparisonWord" "comparison",
    .comparisonSymbol "comparisonSymbol" "comparison"]
  statement := {
    text :=
      "Every \x7bshape\x7d has a \x7bcolorName\x7d shape directly below it showing a number \x7bcomparisonWord\x7d \x7bthreshold\x7d."
    formal :=
      "∀x (Shape(x, \x7bshape\x7d) → ∃y (Below(y, x) ∧ Color(y, \x7bcolorName\x7d) ∧ Number(y) \x7bcomparisonSymbol\x7d \x7bthreshold\x7d))"
    hint := "The cell below each \x7bshape\x7d must match on color and on number." }
  rules := [
    .requirement {
      antecedent := some (isDetail .shape "shape")
      neighbor := {
        direction := word "below"
        conditions := [neighborIs .color "color", comparesWith (theirs .number)]
        satisfy := [.set .color (detail "color"), .ensureNumber (.ref (detail "comparison")) "threshold"]
        violation := some (.breakNumber (.ref (detail "comparison")) "threshold") }
      breakAntecedent := some (.setDistinct .shape "shape") }]

def highNumberShapeRightNeighborShape : Template where
  id := some "high-number-shape-right-neighbor-shape"
  description := none
  placeholders := [("shape", .shape []), ("shape2", .shape ["shape"]), ("threshold", .number (within 1 9))]
  fields := []
  statement := {
    text :=
      "Every \x7bshape\x7d showing a number greater than \x7bthreshold\x7d has a \x7bshape2\x7d directly to its right."
    formal :=
      "∀x ((Shape(x, \x7bshape\x7d) ∧ Number(x) > \x7bthreshold\x7d) → ∃y (RightOf(y, x) ∧ Shape(y, \x7bshape2\x7d)))"
    hint := "Only \x7bshape\x7ds above \x7bthreshold\x7d need a \x7bshape2\x7d on their right." }
  rules := [
    .requirement {
      antecedent := some (.all [
        isDetail .shape "shape",
        .compare .greaterThan (own .number) (detail "threshold")])
      neighbor := {
        direction := word "right"
        conditions := [neighborIs .shape "shape2"]
        satisfy := [.set .shape (detail "shape2")]
        violation := some (.setDistinct .shape "shape2") }
      breakAntecedent := some (.setDistinct .shape "shape") }]

def hard : List Template :=
  [
    nonColorShapeLeftNeighbor,
    shapeInRegionIsColor,
    shapeColorThenColorParity,
    shapeBelowNeighborColorComparison,
    highNumberShapeRightNeighborShape]

end ShapePuzzle.Shipped
