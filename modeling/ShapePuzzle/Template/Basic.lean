import ShapePuzzle.Rule.Violation
import ShapePuzzle.Template.Placeholder

/-!
# Templates

A template yields statements and grids on which they hold or fail.
-/
namespace ShapePuzzle

structure StatementText where
  text : String
  formal : String
  hint : String
  deriving DecidableEq, Inhabited

structure Template where
  id : Option String
  description : Option String
  placeholders : Fields Placeholder
  fields : List ComputedField
  statement : StatementText
  rules : List Rule
  deriving Inhabited

structure Statement where
  text : String
  formal : String
  hint : String
  details : Details
  template : String
  deriving Inhabited

namespace Template

/-- An empty id counts as none. -/
def name (t : Template) : String :=
  match t.id with
  | none | some "" => t.statement.text
  | some id => id

def drawPlaceholders {σ : Type} (details : Details) : Fields Placeholder → Turn σ Details
  | [] => return details
  | (key, p) :: rest => do
    let v ← p.draw details
    drawPlaceholders (details.put key v) rest

def computeFields {σ : Type} (details : Details) : List ComputedField → Turn σ Details
  | [] => return details
  | f :: rest => do
    let v ← f.compute details
    computeFields (details.put f.key v) rest

/-- Placeholders in the order declared, then the computed fields. The details are written down for the record, which
fails if one of them cannot be written. -/
def drawDetails (t : Template) {σ : Type} : Turn σ Details := do
  let details ← computeFields (← drawPlaceholders [] t.placeholders) t.fields
  let _ ← Turn.ofExcept (Value.object details).quoted
  return details

def state (t : Template) {σ : Type} : Turn σ Statement := do
  let details ← t.drawDetails
  let text ← details.fill t.statement.text
  let formal ← details.fill t.statement.formal
  let hint ← if t.statement.hint = "" then pure "" else details.fill t.statement.hint
  return ⟨text, formal, hint, details, t.name⟩

/-- Enforces the rules on the grid and, if the statement is to fail, violates one of them. -/
def shapeGrid (t : Template) (satisfies : Bool) (details : Details) : Turn Grid Unit := do
  Rule.enforceAll details t.rules
  if !satisfies then
    let rule ← pick t.rules
    rule.violate details

def buildGrid (t : Template) (size : Int) (satisfies : Bool) (details : Details) {σ : Type} :
    Turn σ Grid := do
  let start ← Grid.random size
  return (← Turn.aside start (t.shapeGrid satisfies details)).2

def verify (t : Template) (g : Grid) (details : Details) : Except Fault Bool :=
  Rule.verifyAll details g t.rules

end Template
end ShapePuzzle
