import ShapePuzzle.Template.Tokens
import ShapePuzzle.Text.LowerCase

/-!
# Placeholders and computed fields

A placeholder is drawn from what it declares and from the details drawn before it. A field is computed from them.
-/
namespace ShapePuzzle

/-- Bounds as declared; a reference takes the place of a bound and is moved by its offset. -/
structure Range where
  low : Option Int
  high : Option Int
  lowRef : Option String
  highRef : Option String
  lowOffset : Int
  highOffset : Int
  deriving DecidableEq, Inhabited

inductive Placeholder where
  | shape (excluded : List String)
  | color (excluded : List String)
  | number (range : Range)
  | int (range : Range)
  | choice (options : List Value)
  | comparison (options : List String)
  | parity
  | factor (options : List Int)
  deriving Inhabited

def parities : List String := ["even", "odd"]
def comparisonWords : List String := ["greater", "less"]
def factors : List Int := [2, 3]

/-- An integer brought between the lowest and the highest number. -/
def clampNumber (n : Int) : Int :=
  min (max n lowestNumber) highestNumber

namespace Range

/-- An empty name refers to nothing. -/
def named (r : Option String) : List String :=
  match r with
  | none | some "" => []
  | some k => [k]

def references (r : Range) : List String :=
  named r.lowRef ++ named r.highRef

def reference (details : Details) (key : String) (offset : Int) : Except Fault Int := do
  match ← details.find key with
  | .number (.int n) => return n + offset
  | v => throw (.telling (.boundNotInteger key) v.quoted)

def bound (details : Details) (declared : Option Int) (ref : Option String) (offset otherwise : Int) :
    Except Fault Int :=
  match named ref with
  | key :: _ => reference details key offset
  | [] => .ok (declared.getD otherwise)

def bounds (r : Range) (details : Details) (low high : Int) : Except Fault (Int × Int) := do
  let low ← bound details r.low r.lowRef r.lowOffset low
  return (low, ← bound details r.high r.highRef r.highOffset high)

end Range

namespace Placeholder

/-- The details that have to be drawn before. -/
def references : Placeholder → List String
  | shape excluded | color excluded => excluded
  | number r | int r => r.references
  | _ => []

def pickOther (domain : List String) (excluded : List String) (details : Details) {σ : Type} :
    Turn σ Value := do
  let values ← Turn.ofExcept (excluded.mapM details.find)
  pickExcluding (domain.map .text) (values.filter Value.isTruthy)

def draw (details : Details) {σ : Type} : Placeholder → Turn σ Value
  | shape excluded => pickOther shapes excluded details
  | color excluded => pickOther colors excluded details
  | number r => do
    let (low, high) ← Turn.ofExcept (r.bounds details lowestNumber highestNumber)
    return .int (← pickInteger (clampNumber low) (clampNumber high))
  | int r => do
    let (low, high) ← Turn.ofExcept (r.bounds details 0 standardSize)
    return .int (← if high < low then pickInteger high low else pickInteger low high)
  | choice options => pick options
  | comparison options => do return .text (← pick options)
  | parity => do return .text (← pick parities)
  | factor options => do return .int (← pick options)

end Placeholder

/-- The name of a color, whatever the case it is written in; an unknown color is its own name. -/
def colorName : Value → Except Fault Value
  | .text s => .ok (.text ((palette.lookup (lowerCase s)).getD s))
  | _ => .error .notText

inductive ComputedField where
  | colorName (key source : String)
  | comparisonWord (key source : String)
  | comparisonSymbol (key source : String)
  | parityPredicate (key source : String)
  | regionDescription (key direction size : String)
  | stringTemplate (key template : String)
  deriving DecidableEq, Inhabited

namespace ComputedField

def key : ComputedField → String
  | colorName k _ | comparisonWord k _ | comparisonSymbol k _ | parityPredicate k _ | regionDescription k _ _
  | stringTemplate k _ => k

def references : ComputedField → List String
  | colorName _ s | comparisonWord _ s | comparisonSymbol _ s | parityPredicate _ s => [s]
  | regionDescription _ d s => [d, s]
  | stringTemplate _ _ => []

/-- One of two words, by whether the detail is the expected text. -/
def either (details : Details) (source expected yes no : String) : Except Fault Value := do
  return .text (if (← details.find source).same (.text expected) then yes else no)

def describeRegion (direction size : Value) : Except Fault Value := do
  let lines := if direction.isIn [.text "left", .text "right"] then "columns" else "rows"
  return .text ((← direction.bare) ++ " " ++ (← size.bare) ++ " " ++ lines)

def compute (details : Details) {σ : Type} : ComputedField → Turn σ Value
  | colorName _ s => .ofExcept do ShapePuzzle.colorName (← details.find s)
  | comparisonWord _ s => .ofExcept (either details s "greater" "greater than" "less than")
  | comparisonSymbol _ s => .ofExcept (either details s "greater" ">" "<")
  | parityPredicate _ s => .ofExcept (either details s "even" "Even" "Odd")
  | regionDescription _ d s => .ofExcept do
    let direction ← details.find d
    describeRegion direction (← details.find s)
  | stringTemplate _ t => do return .text (← details.fill t)

end ComputedField
end ShapePuzzle
