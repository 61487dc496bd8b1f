import ShapePuzzle.Condition.Basic
import ShapePuzzle.Grid
import ShapePuzzle.Number.Prime
import ShapePuzzle.Text.Percent

/-!
# Evaluating conditions

A condition is evaluated where the details of a statement are known, and perhaps a cell and its neighbor.
A value that a leaf cannot work with is a fault of that leaf, which is told with the leaf written out; a region passes
the mismatch on as it is.
-/
namespace ShapePuzzle

abbrev Details := Fields Value

def Details.find (d : Details) (key : String) : Except Fault Value :=
  match d.lookup key with
  | some v => .ok v
  | none => .error (.unresolved key)

structure Context where
  details : Details
  cell : Option Cell
  neighbor : Option Cell
  size : Int

namespace Comparison

/-- The name of a comparison, or one of the two words a placeholder may hold. -/
def ofValue (v : Value) : Except Fault Comparison :=
  match v with
  | .text "greater" => .ok greaterThan
  | .text "less" => .ok lessThan
  | .text s => match ofName? s with
    | some c => .ok c
    | none => .error (.unsupportedComparison (quoted s))
  | .list _ | .object _ => .error .kindMismatch
  | v => .error (.telling .unsupportedComparison v.quoted)

def test (c : Comparison) (left right : Value) : Except Fault Bool :=
  match c.test? left right with
  | some b => .ok b
  | none => .error (.unordered c.name left right)

end Comparison

def Ref.resolve (ctx : Context) : Ref → Except Fault Value
  | placeholder k | placeholderName k => ctx.details.find k
  | cellProperty p => match ctx.cell with
    | some c => .ok (c.get p)
    | none => .error (.noCell p)
  | neighborProperty p => match ctx.neighbor with
    | some c => .ok (c.get p)
    | none => .error (.noNeighbor p)
  | constant v => .ok v
  | number n => .ok (.number n)

/-- What a reference says by itself, if it can be written; names always can. -/
def Ref.written : Ref → Except Fault Unit
  | constant v => discard v.quoted
  | number n => discard (Value.number n).quoted
  | _ => .ok ()

/-- The fault of a leaf, whose references are written out with it. -/
def Fault.ofLeaf (operator : String) (refs : List Ref) : Fault :=
  match refs.forM Ref.written with
  | .ok () => .cannotEvaluate operator
  | .error e => e

namespace Value

def two : Value := .int 2

/-- Whether dividing a value leaves nothing over; `blame` is the fault of values that do not divide. Besides numbers
only a text divides, by what is filled into it, and something is always left. -/
def divides (blame : Fault) (value factor : Value) : Except Fault Bool :=
  match value, value.number?, factor.number? with
  | .text s, _, _ => match Percent.fill s factor with
    | .ok () => .ok false
    | .error .kindMismatch => .error blame
    | .error e => .error e
  | _, some m, some n => match m.divide n with
    | .whole => .ok true
    | .broken => .ok false
    | .byZero => .error blame
    | .tooLarge => .error .numberTooLarge
  | _, _, _ => .error blame

/-- The search for a divisor of infinity never ends. -/
def isPrime (v : Value) : Except Fault Bool :=
  match v.number? with
  | none => .error .kindMismatch
  | some n => match n.isPrime? with
    | some b => .ok b
    | none => .error .endless

end Value

namespace Condition

def inOrder (blame : Fault) (a b : Value) : Except Fault Bool :=
  match a.le? b with
  | some r => .ok r
  | none => .error blame

/-- The upper bound is looked at only when the lower one holds. -/
def evaluateBetween (ctx : Context) (value low high : Ref) : Except Fault Bool := do
  let blame := Fault.ofLeaf "between" [value, low, high]
  let v ← value.resolve ctx
  if ← inOrder blame (← low.resolve ctx) v then inOrder blame v (← high.resolve ctx) else return false

def evaluateParity (ctx : Context) (value parity : Ref) : Except Fault Bool := do
  let v ← value.resolve ctx
  let p ← parity.resolve ctx
  let even ← v.divides (.ofLeaf "parity" [value, parity]) .two
  return if p.same (.text "even") then even else !even

def evaluatePrime (ctx : Context) (value : Ref) : Except Fault Bool := do
  match (← value.resolve ctx).isPrime with
  | .error .kindMismatch => .error (.ofLeaf "prime" [value])
  | r => r

def evaluateMultiple (ctx : Context) (value factor : Ref) : Except Fault Bool := do
  let v ← value.resolve ctx
  v.divides (.ofLeaf "multipleOf" [value, factor]) (← factor.resolve ctx)

/-- No region holds without a cell. -/
def evaluateRegion (ctx : Context) (direction size : Ref) : Except Fault Bool :=
  match ctx.cell with
  | none => .ok false
  | some c => do
    let d ← direction.resolve ctx
    isInRegion c.position d (← size.resolve ctx) ctx.size

mutual

def evaluate (ctx : Context) : Condition → Except Fault Bool
  | .all cs => evaluateAll ctx cs
  | .any cs => evaluateAny ctx cs
  | .not c => do return !(← c.evaluate ctx)
  | .compare op l r => do
    let a ← l.resolve ctx
    op.test a (← r.resolve ctx)
  | .between v l h => evaluateBetween ctx v l h
  | .parity v p => evaluateParity ctx v p
  | .prime v => evaluatePrime ctx v
  | .multipleOf v f => evaluateMultiple ctx v f
  | .inRegion d s => evaluateRegion ctx d s

def evaluateAll (ctx : Context) : List Condition → Except Fault Bool
  | [] => .ok true
  | c :: cs => do if ← c.evaluate ctx then evaluateAll ctx cs else return false

def evaluateAny (ctx : Context) : List Condition → Except Fault Bool
  | [] => .ok false
  | c :: cs => do if ← c.evaluate ctx then return true else evaluateAny ctx cs

end

/-- An absent condition holds. -/
def evaluate? (ctx : Context) : Option Condition → Except Fault Bool
  | none => .ok true
  | some c => c.evaluate ctx

end Condition

namespace Cell

/-- What a condition sees on one cell. -/
def context (c : Cell) (details : Details) (size : Int) : Context := ⟨details, some c, none, size⟩

def contextWith (c neighbor : Cell) (details : Details) (size : Int) : Context :=
  ⟨details, some c, some neighbor, size⟩

end Cell
end ShapePuzzle
