import ShapePuzzle.Fault

/-!
# The text of a value

In a text a value stands bare; inside a list, an object or a message texts are quoted. A value cannot be written if
an integer in it has too many digits or its collections stand too deep inside one another.
-/
namespace ShapePuzzle
namespace Value

/-- How the values that are no text are spelled. -/
structure Spelling where
  null : String
  yes : String
  no : String

def spelling : Spelling := ⟨"None", "True", "False"⟩

def joined (parts : List String) : String :=
  String.intercalate ", " parts

mutual

/-- Writes a value where collections may be opened inside one another `room` times more. -/
def spell : Nat → Value → Except Fault String
  | _, .null => .ok spelling.null
  | _, .bool b => .ok (if b then spelling.yes else spelling.no)
  | _, .number n => match n.text? with
    | some s => .ok s
    | none => .error .tooManyDigits
  | _, .text s => .ok (ShapePuzzle.quoted s)
  | 0, .list _ | 0, .object _ => .error .nestedTooDeep
  | room + 1, .list xs => do return "[" ++ joined (← spellItems room xs) ++ "]"
  | room + 1, .object fs => do return "\x7b" ++ joined (← spellFields room fs) ++ "\x7d"

def spellItems (room : Nat) : List Value → Except Fault (List String)
  | [] => .ok []
  | x :: xs => do
    let s ← x.spell room
    return s :: (← spellItems room xs)

def spellFields (room : Nat) : List (String × Value) → Except Fault (List String)
  | [] => .ok []
  | (k, x) :: rest => do
    let s ← x.spell room
    return (ShapePuzzle.quoted k ++ ": " ++ s) :: (← spellFields room rest)

end

def quoted (v : Value) : Except Fault String := v.spell deepestNesting

def bare : Value → Except Fault String
  | .text s => .ok s
  | v => v.quoted

mutual

/-- How many collections stand one inside another. -/
def nesting : Value → Nat
  | .list xs => itemsNesting xs + 1
  | .object fs => fieldsNesting fs + 1
  | _ => 0

def itemsNesting : List Value → Nat
  | [] => 0
  | x :: xs => max x.nesting (itemsNesting xs)

def fieldsNesting : List (String × Value) → Nat
  | [] => 0
  | (_, x) :: rest => max x.nesting (fieldsNesting rest)

end

mutual

/-- No integer in the value has too many digits. -/
def isShort : Value → Bool
  | .number n => n.isShort
  | .list xs => itemsAreShort xs
  | .object fs => fieldsAreShort fs
  | _ => true

def itemsAreShort : List Value → Bool
  | [] => true
  | x :: xs => x.isShort && itemsAreShort xs

def fieldsAreShort : List (String × Value) → Bool
  | [] => true
  | (_, x) :: rest => x.isShort && fieldsAreShort rest

end

def isWritable (v : Value) : Bool := v.nesting ≤ deepestNesting && v.isShort

end Value

namespace Fault

/-- The fault that tells of what was written, or what kept it from being written. -/
def telling (fault : String → Fault) : Except Fault String → Fault
  | .ok s => fault s
  | .error e => e

/-- The fault of a comparison for which two values have no order. -/
def unordered (comparison : String) (left right : Value) : Fault :=
  telling (fun left => telling (incomparable comparison left) right.quoted) left.quoted

end Fault
end ShapePuzzle
