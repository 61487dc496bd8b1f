import ShapePuzzle.Condition.Forcing

/-!
# Actions on a cell and on its neighbor
-/
namespace ShapePuzzle

inductive CellAction where
  | set (p : Property) (value : Ref)
  | setDistinct (p : Property) (placeholder : String)
  | requireRegion (direction size : Ref)
  | ensure (c : Condition)
  | break (c : Condition)
  deriving Inhabited

/-- Whether an action was carried out or the antecedent of its rule has to be broken instead. -/
inductive Status where
  | applied | needsBreak
  deriving DecidableEq

def Status.ofBool (applied : Bool) : Status :=
  if applied then .applied else .needsBreak

namespace CellAction

def keys : CellAction → List String
  | set _ v => v.keys
  | setDistinct _ k => [k]
  | requireRegion d s => d.keys ++ s.keys
  | ensure c | .break c => c.keys

def isRegion : CellAction → Bool
  | requireRegion _ _ => true
  | _ => false

def inRegion (d s : Ref) (cell : Cell) (details : Details) (size : Int) : Except Fault Bool := do
  let ctx := cell.context details size
  let direction ← d.resolve ctx
  isInRegion cell.position direction (← s.resolve ctx) size

def apply (details : Details) (size : Int) : CellAction → Turn Cell Status
  | set p v => do
    let cell ← Turn.subject
    Turn.become (cell.set p (← Turn.ofExcept (v.resolve (cell.context details size))))
    return .applied
  | setDistinct p k => do
    let excluded ← Turn.ofExcept (details.find k)
    let v ← pickDistinct p excluded
    Turn.become ((← Turn.subject).set p v)
    return .applied
  | requireRegion d s => do
    return .ofBool (← Turn.ofExcept (inRegion d s (← Turn.subject) details size))
  | ensure c => do return .ofBool (← c.force details size)
  | .break c => do return .ofBool (← (Condition.not c).force details size)

/-- What the cell satisfies once the action has been carried out. -/
def holds (details : Details) (size : Int) (cell : Cell) : CellAction → Except Fault Bool
  | set p v => do return (cell.get p).strictlyEquals (← v.resolve (cell.context details size))
  | setDistinct p k => do return !(cell.get p).strictlyEquals (← details.find k)
  | requireRegion d s => inRegion d s cell details size
  | ensure c => c.evaluate (cell.context details size)
  | .break c => do return !(← c.evaluate (cell.context details size))

/-- Makes the action fail on the cell and says whether it does. A region cannot be left. -/
def refute (details : Details) (size : Int) (a : CellAction) : Turn Cell Bool := do
  match a with
  | set p v =>
    let excluded ← Turn.ofExcept (v.resolve ((← Turn.subject).context details size))
    let other ← pickDistinct p excluded
    Turn.become ((← Turn.subject).set p other)
  | setDistinct p k =>
    let v ← Turn.ofExcept (details.find k)
    Turn.become ((← Turn.subject).set p v)
  | requireRegion _ _ => pure ()
  | ensure c => let _ ← (Condition.not c).force details size
  | .break c => let _ ← c.force details size
  return !(← Turn.ofExcept (a.holds details size (← Turn.subject)))

end CellAction

/-- A comparison given by name or found in a value. -/
inductive ComparisonSpec where
  | named (c : Comparison)
  | ref (r : Ref)
  deriving Inhabited

def ComparisonSpec.keys : ComparisonSpec → List String
  | named _ => []
  | ref r => r.keys

def ComparisonSpec.resolve (ctx : Context) : ComparisonSpec → Except Fault Comparison
  | named c => .ok c
  | ref r => do Comparison.ofValue (← r.resolve ctx)

inductive NeighborAction where
  | set (p : Property) (value : Ref)
  | setDistinct (p : Property) (placeholder : String)
  | ensureNumber (comparison : ComparisonSpec) (placeholder : String)
  | breakNumber (comparison : ComparisonSpec) (placeholder : String)
  deriving Inhabited

/-- The numbers that compare with a threshold as wanted. -/
def numbersComparing (wanted : Bool) (c : Comparison) (threshold : Value) :
    List Int → Except Fault (List Value)
  | [] => .ok []
  | n :: ns => do
    let holds ← c.test (.int n) threshold
    let rest ← numbersComparing wanted c threshold ns
    return if holds = wanted then .int n :: rest else rest

/-- The current number if it compares as wanted, else one that does, if there is any. -/
def pickComparing (wanted : Bool) (c : Comparison) (threshold current : Value) {σ : Type} :
    Turn σ (Option Value) := do
  let values ← Turn.ofExcept (numbersComparing wanted c threshold numbers)
  if values.isEmpty then return none
  if current.isIn values then return some current
  return some (← pick values)

namespace NeighborAction

def keys : NeighborAction → List String
  | set _ v => v.keys
  | setDistinct _ k => [k]
  | ensureNumber c k | breakNumber c k => c.keys ++ [k]

def setComparing (wanted : Bool) (c : ComparisonSpec) (k : String) (cell : Cell) (details : Details)
    (size : Int) : Turn Cell Status := do
  let neighbor ← Turn.subject
  let comparison ← Turn.ofExcept (c.resolve (cell.contextWith neighbor details size))
  let threshold ← Turn.ofExcept (details.find k)
  match ← pickComparing wanted comparison threshold neighbor.number with
  | none => return .needsBreak
  | some v =>
    Turn.become (neighbor.set .number v)
    return .applied

/-- Works on the neighbor of a cell. -/
def apply (cell : Cell) (details : Details) (size : Int) : NeighborAction → Turn Cell Status
  | set p v => do
    let neighbor ← Turn.subject
    let value ← Turn.ofExcept (v.resolve (cell.contextWith neighbor details size))
    Turn.become (neighbor.set p value)
    return .applied
  | setDistinct p k => do
    let excluded ← Turn.ofExcept (details.find k)
    let v ← pickDistinct p excluded
    Turn.become ((← Turn.subject).set p v)
    return .applied
  | ensureNumber c k => setComparing true c k cell details size
  | breakNumber c k => setComparing false c k cell details size

end NeighborAction
end ShapePuzzle
