import ShapePuzzle.Cell
import ShapePuzzle.Issue

/-!
# Why a computation stops

A fault that tells of values holds them as they are written in its message.
-/
namespace ShapePuzzle

inductive Fault where
  | emptyChoice
  | unknownDomain (name : String)
  | cellCount (size needed : String) (count : Nat)
  | numeralTooLong (digits : Nat)
  | tooManyDigits
  | badPercent (message : String)
  | unresolved (key : String)
  | unknownDirection (direction : String)
  | incomparable (comparison left right : String)
  | cannotEvaluate (operator : String)
  | unsupportedComparison (name : String)
  | boundNotInteger (key value : String)
  | noNeighborAction
  | noCell (property : Property)
  | noNeighbor (property : Property)
  | invalidBank (issues : List Issue)
  | bankUnreadable
  | bankNotDocument
  | emptyTier (tier : String)
  | unknownTier (tier : String)
  | distractorsExhausted (found wanted : Int) (template : String) (attempts : Int)
  | invalid (issues : List Issue)
  | kindMismatch
  | notText
  | noSuchField
  | outOfRange
  | numberTooLarge
  | undecodable
  | nestedTooDeep
  | outOfMemory
  | endless
  | unshownColors (colors : List Value)

namespace Fault

/-- The complaint about a numeral, with what is said of it. -/
def overlong (said : String) : String :=
  "Exceeds the limit (4300 digits) for integer string conversion" ++ said ++
    "; use sys.set_int_max_str_digits() to increase the limit"

/-- What is told about a fault; the faults of plain operations tell nothing. -/
def message? : Fault → Option String
  | emptyChoice => some "Cannot pick a random element from an empty sequence"
  | unknownDomain name => some s!"Unknown property domain requested for {name}"
  | cellCount size needed count => some s!"A {size}x{size} grid needs {needed} cells, got {count}"
  | numeralTooLong digits => some (overlong s!": value has {digits} digits")
  | tooManyDigits => some (overlong "")
  | badPercent message => some message
  | unresolved key => some s!"Placeholder '{key}' is not resolved in the statement details"
  | unknownDirection direction => some s!"Unknown direction: {direction}"
  | incomparable comparison left right => some s!"Cannot apply {comparison} to {left} and {right}"
  | cannotEvaluate operator => some s!"Cannot evaluate {operator}"
  | unsupportedComparison name => some s!"Unsupported comparison: {name}"
  | boundNotInteger key value => some s!"Range bound '{key}' must be a number, got {value}"
  | noNeighborAction => some "Unsupported neighbor action: None"
  | noCell property => some s!"cellProperty '{property.name}' requested without a cell in context"
  | noNeighbor property =>
    some s!"neighborProperty '{property.name}' requested without a neighbor in context"
  | invalidBank _ => some "Invalid template definition in <bank>"
  | bankUnreadable => some "Failed to load templates from <bank>"
  | bankNotDocument => some "Template file <bank> is not valid JSON"
  | emptyTier tier => some s!"No templates found for difficulty '{tier}'"
  | unknownTier tier => some s!"No templates for difficulty '{tier}'"
  | distractorsExhausted found wanted template attempts =>
    some s!"Found {found} of {wanted} distractors for '{template}' after {attempts} attempts"
  | invalid _ | kindMismatch | notText | noSuchField | outOfRange | numberTooLarge | undecodable
  | nestedTooDeep | outOfMemory | endless | unshownColors _ => none

def issues : Fault → List Issue
  | invalid is | invalidBank is => is
  | _ => []

end Fault
end ShapePuzzle
