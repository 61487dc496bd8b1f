import ShapePuzzle.Bank.Shorthand

/-!
# Medium templates
-/
namespace ShapePuzzle.Shipped

def colorShapeNumberComparison : Template where
  id := some "color-shape-number-comparison"
  description := none
  placeholders := [
    ("shape", .shape []),
    ("color", .color []),
    ("comparison", .comparison comparisonWords),
    ("threshold", .number (within 2 9))]
  fields := [
    .colorName "colorName" "color",
    .comparisonWord "comparisonWord" "comparison",
    .comparisonSymbol "comparisonSymbol" "comparison"]
  statement := {
    text := "Every \x7bcolorName\x7d \x7bshape\x7d shows a number \x7bcomparisonWord\x7d \x7bthreshold\x7d."
    formal :=
      "∀x ((Shape(x, \x7bshape\x7d) ∧ Color(x, \x7bcolorName\x7d)) → Number(x) \x7bcomparisonSymbol\x7d \x7bthreshold\x7d)"
    hint := "Find the shapes that are both \x7bcolorName\x7d and \x7bshape\x7ds first." }
  rules := [
    .implication {
      antecedent := some (.all [isDetail .shape "shape", isDetail .color "color"])
      actions := [.ensure (comparesWith (own .number))]
      breakAntecedent := none
      violation := some (.break (comparesWith (own .number))) }]

def shapeParityColor : Template where
  id := some "shape-parity-color"
  description := none
  placeholders := [("shape", .shape []), ("parity", .parity), ("color", .color [])]
  fields := [.colorName "colorName" "color", .parityPredicate "parityLabel" "parity"]
  statement := {
    text := "Every \x7bshape\x7d with an \x7bparity\x7d number is \x7bcolorName\x7d."
    formal :=
      "∀x ((Shape(x, \x7bshape\x7d) ∧ \x7bparityLabel\x7d(Number(x))) → Color(x, \x7bcolorName\x7d))"
    hint := "Ignore \x7bshape\x7ds whose number is not \x7bparity\x7d." }
  rules := [
    .implication {
      antecedent := some (.all [isDetail .shape "shape", .parity (own .number) (detail "parity")])
      actions := [.set .color (detail "color")]
      breakAntecedent := none
      violation := some (.setDistinct .color "color") }]

def colorAboveNeighborComparison : Template where
  id := some "color-above-neighbor-comparison"
  description := none
  placeholders := [
    ("color", .color []),
    ("comparison", .comparison comparisonWords),
    ("threshold", .number (within 2 9))]
  fields := [
    .colorName "colorName" "color",
    .comparisonWord "comparisonWord" "comparison",
    .comparisonSymbol "comparisonSymbol" "comparison"]
  statement := {
    text :=
      "Every \x7bcolorName\x7d shape has a number \x7bcomparisonWord\x7d \x7bthreshold\x7d directly above it."
    formal :=
      "∀x (Color(x, \x7bcolorName\x7d) → ∃y (Above(y, x) ∧ Number(y) \x7bcomparisonSymbol\x7d \x7bthreshold\x7d))"
    hint := "A \x7bcolorName\x7d shape in the top row has nothing above it." }
  rules := [
    .requirement {
      antecedent := some (isDetail .color "color")
      neighbor := {
        direction := word "above"
        conditions := [comparesWith (theirs .number)]
        satisfy := [.ensureNumber (.ref (detail "comparison")) "threshold"]
        violation := some (.breakNumber (.ref (detail "comparison")) "threshold") }
      breakAntecedent := some (.setDistinct .color "color") }]

def shapeMultipleColor : Template where
  id := some "shape-multiple-color"
  description := none
  placeholders := [("shape", .shape []), ("factor", .factor factors), ("color", .color [])]
  fields := [.colorName "colorName" "color"]
  statement := {
    text := "Every \x7bshape\x7d whose number is a multiple of \x7bfactor\x7d is \x7bcolorName\x7d."
    formal :=
      "∀x ((Shape(x, \x7bshape\x7d) ∧ MultipleOf(Number(x), \x7bfactor\x7d)) → Color(x, \x7bcolorName\x7d))"
    hint := "List the \x7bshape\x7ds showing a multiple of \x7bfactor\x7d." }
  rules := [
    .implication {
      antecedent := some (.all [isDetail .shape "shape", .multipleOf (own .number) (detail "factor")])
      actions := [.set .color (detail "color")]
      breakAntecedent := none
      violation := some (.setDistinct .color "color") }]

def primeShapeInRegion : Template where
  id := some "prime-shape-in-region"
  description := none
  placeholders := [
    ("shape", .shape []),
    ("direction", .choice [.text "left", .text "right", .text "top", .text "bottom"]),
    ("size", .int (within 1 3))]
  fields := [.regionDescription "region" "direction" "size"]
  statement := {
    text := "Every \x7bshape\x7d with a prime number lies in the \x7bregion\x7d."
    formal :=
      "∀x ((Shape(x, \x7bshape\x7d) ∧ Prime(Number(x))) → InRegion(x, \x7bdirection\x7d, \x7bsize\x7d))"
    hint := "The primes up to 10 are 2, 3, 5 and 7." }
  rules := [
    .implication {
      antecedent := some (.all [isDetail .shape "shape", .prime (own .number)])
      actions := [.requireRegion (detail "direction") (detail "size")]
      breakAntecedent := some (.setDistinct .shape "shape")
      violation := none }]

def shapeNumberBetween : Template where
  id := some "shape-number-between"
  description := none
  placeholders := [("shape", .shape []), ("low", .number (within 1 5)), ("high", .number (above "low" 2 8))]
  fields := []
  statement := {
    text := "Every \x7bshape\x7d shows a number between \x7blow\x7d and \x7bhigh\x7d."
    formal := "∀x (Shape(x, \x7bshape\x7d) → (\x7blow\x7d ≤ Number(x) ∧ Number(x) ≤ \x7bhigh\x7d))"
    hint := "Both \x7blow\x7d and \x7bhigh\x7d count as between." }
  rules := [
    .implication {
      antecedent := some (isDetail .shape "shape")
      actions := [.ensure (.between (own .number) (detail "low") (detail "high"))]
      breakAntecedent := none
      violation := some (.break (.between (own .number) (detail "low") (detail "high"))) }]

def medium : List Template :=
  [
    colorShapeNumberComparison,
    shapeParityColor,
    colorAboveNeighborComparison,
    shapeMultipleColor,
    primeShapeInRegion,
    shapeNumberBetween]

end ShapePuzzle.Shipped
