import ShapePuzzle.Comparison
import ShapePuzzle.Luck

/-!
# Choosing from what a value holds

A list holds its items, a text its characters and an object its names.
-/
namespace ShapePuzzle
variable {σ : Type}

/-- The property that a value names. -/
def Property.ofValue (v : Value) : Except Fault Property :=
  match v with
  | .text s => match ofName? s with
    | some p => .ok p
    | none => .error (.unknownDomain s)
  | v => .error (.telling .unknownDomain v.bare)

/-- The comparison that a value names, to be used on two others. -/
def Comparison.named (name left right : Value) : Except Fault Comparison :=
  match name with
  | .text s => match ofName? s with
    | some c => .ok c
    | none => .error .noSuchField
  | .list _ | .object _ => .error (.telling (fun name => .unordered name left right) name.bare)
  | _ => .error .noSuchField

namespace Value

def elements (v : Value) : Except Fault (List Value) :=
  match v.elements? with
  | some vs => .ok vs
  | none => .error .kindMismatch

def clamp (v low high : Value) : Except Fault Value :=
  match v.clamp? low high with
  | some w => .ok w
  | none => .error .kindMismatch

/-- One of the elements. An object has no element at the place that is drawn, only names. -/
def pick (v : Value) : Turn σ Value :=
  if !v.isTruthy then throw .emptyChoice
  else match v with
    | .object fs => do
      let _ ← Turn.draw fs.length
      throw .noSuchField
    | v => do ShapePuzzle.pick (← Turn.ofExcept v.elements)

/-- One of the elements that is not excluded, or any if all are. -/
def pickExcluding (domain excluded : Value) : Turn σ Value := do
  let excluded ← Turn.ofExcept excluded.elements
  let values ← Turn.ofExcept domain.elements
  match values.filter fun v => !v.isIn excluded with
  | [] => domain.pick
  | v :: rest => ShapePuzzle.pick (v :: rest)

def shuffled (v : Value) : Turn σ Value := do
  return .list (← shuffle (← Turn.ofExcept v.elements))

end Value
end ShapePuzzle
