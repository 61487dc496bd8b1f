import ShapePuzzle.Bank.Shorthand

/-!
# Easy templates
-/
namespace ShapePuzzle.Shipped

def shapeIsColor : Template where
  id := some "shape-is-color"
  description := none
  placeholders := [("shape", .shape []), ("color", .color [])]
  fields := [.colorName "colorName" "color"]
  statement := {
    text := "All \x7bshape\x7ds are \x7bcolorName\x7d."
    formal := "∀x (Shape(x, \x7bshape\x7d) → Color(x, \x7bcolorName\x7d))"
    hint := "Look at every \x7bshape\x7d: is any of them not \x7bcolorName\x7d?" }
  rules := [
    .implication {
      antecedent := some (isDetail .shape "shape")
      actions := [.set .color (detail "color")]
      breakAntecedent := none
      violation := some (.setDistinct .color "color") }]

def colorNumberAboveThreshold : Template where
  id := some "color-number-above-threshold"
  description := none
  placeholders := [("color", .color []), ("threshold", .number (within 1 9))]
  fields := [.colorName "colorName" "color"]
  statement := {
    text := "Every \x7bcolorName\x7d shape shows a number greater than \x7bthreshold\x7d."
    formal := "∀x (Color(x, \x7bcolorName\x7d) → Number(x) > \x7bthreshold\x7d)"
    hint := "Check the numbers on the \x7bcolorName\x7d shapes only." }
  rules := [
    .implication {
      antecedent := some (isDetail .color "color")
      actions := [.ensure (.compare .greaterThan (own .number) (detail "threshold"))]
      breakAntecedent := none
      violation := some (.break (.compare .greaterThan (own .number) (detail "threshold"))) }]

def shapeInRegion : Template where
  id := some "shape-in-region"
  description := none
  placeholders := [
    ("shape", .shape []),
    ("direction", .choice [.text "left", .text "right", .text "top", .text "bottom"]),
    ("size", .int (within 1 3))]
  fields := [.regionDescription "region" "direction" "size"]
  statement := {
    text := "Every \x7bshape\x7d lies in the \x7bregion\x7d."
    formal := "∀x (Shape(x, \x7bshape\x7d) → InRegion(x, \x7bdirection\x7d, \x7bsize\x7d))"
    hint := "Is there a \x7bshape\x7d outside the \x7bregion\x7d?" }
  rules := [
    .implication {
      antecedent := some (isDetail .shape "shape")
      actions := [.requireRegion (detail "direction") (detail "size")]
      breakAntecedent := some (.setDistinct .shape "shape")
      violation := none }]

def shapeNumberParity : Template where
  id := some "shape-number-parity"
  description := none
  placeholders := [("shape", .shape []), ("parity", .parity)]
  fields := [.parityPredicate "parityLabel" "parity"]
  statement := {
    text := "Every \x7bshape\x7d shows an \x7bparity\x7d number."
    formal := "∀x (Shape(x, \x7bshape\x7d) → \x7bparityLabel\x7d(Number(x)))"
    hint := "Only the \x7bshape\x7ds matter here. Are all their numbers \x7bparity\x7d?" }
  rules := [
    .implication {
      antecedent := some (isDetail .shape "shape")
      actions := [.ensure (.parity (own .number) (detail "parity"))]
      breakAntecedent := none
      violation := some (.break (.parity (own .number) (detail "parity"))) }]

def shapeRightNeighborColor : Template where
  id := some "shape-right-neighbor-color"
  description := none
  placeholders := [("shape", .shape []), ("color", .color [])]
  fields := [.colorName "colorName" "color"]
  statement := {
    text := "Every \x7bshape\x7d has a \x7bcolorName\x7d shape directly to its right."
    formal := "∀x (Shape(x, \x7bshape\x7d) → ∃y (RightOf(y, x) ∧ Color(y, \x7bcolorName\x7d)))"
    hint := "A \x7bshape\x7d in the rightmost column has nothing to its right." }
  rules := [
    .requirement {
      antecedent := some (isDetail .shape "shape")
      neighbor := {
        direction := word "right"
        conditions := [neighborIs .color "color"]
        satisfy := [.set .color (detail "color")]
        violation := some (.setDistinct .color "color") }
      breakAntecedent := some (.setDistinct .shape "shape") }]

def shapeShowsNumber : Template where
  id := some "shape-shows-number"
  description := none
  placeholders := [("shape", .shape []), ("number", .number anyRange)]
  fields := []
  statement := {
    text := "Every \x7bshape\x7d shows the number \x7bnumber\x7d."
    formal := "∀x (Shape(x, \x7bshape\x7d) → Number(x) = \x7bnumber\x7d)"
    hint := "Read the number on each \x7bshape\x7d." }
  rules := [
    .implication {
      antecedent := some (isDetail .shape "shape")
      actions := [.set .number (detail "number")]
      breakAntecedent := none
      violation := some (.setDistinct .number "number") }]

def easy : List Template :=
  [
    shapeIsColor,
    colorNumberAboveThreshold,
    shapeInRegion,
    shapeNumberParity,
    shapeRightNeighborColor,
    shapeShowsNumber]

end ShapePuzzle.Shipped
