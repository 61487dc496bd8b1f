import ShapePuzzle.Template.Basic

/-!
# Shorthand for writing templates
-/
namespace ShapePuzzle.Shipped

abbrev own (p : Property) : Ref := .cellProperty p
abbrev theirs (p : Property) : Ref := .neighborProperty p
abbrev detail (key : String) : Ref := .placeholder key
abbrev word (s : String) : Ref := .constant (.text s)

/-- No bounds but those of the domain. -/
abbrev anyRange : Range := ⟨none, none, none, none, 0, 0⟩

abbrev within (low high : Int) : Range := ⟨some low, some high, none, none, 0, 0⟩

/-- At least `offset` more than another detail. -/
abbrev above (key : String) (offset high : Int) : Range := ⟨none, some high, some key, none, offset, 0⟩

abbrev isDetail (p : Property) (key : String) : Condition := .compare .equals (own p) (detail key)
abbrev neighborIs (p : Property) (key : String) : Condition := .compare .equals (theirs p) (detail key)

/-- The drawn comparison with the drawn threshold. -/
abbrev comparesWith (r : Ref) : Condition :=
  .any [
    .all [.compare .equals (detail "comparison") (word "greater"), .compare .greaterThan r (detail "threshold")],
    .all [.compare .equals (detail "comparison") (word "less"), .compare .lessThan r (detail "threshold")]]

end ShapePuzzle.Shipped
