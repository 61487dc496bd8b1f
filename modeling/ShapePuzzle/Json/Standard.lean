import ShapePuzzle.Value.Basic

/-!
# Values that standard JSON can hold

A value that is sent on has neither floats without a finite value nor texts with halves of pairs in it.
-/
namespace ShapePuzzle

namespace Number

def isFinite : Number → Bool
  | int _ => true
  | float x => x.value?.isSome

end Number

namespace Value

mutual

def isStandard : Value → Bool
  | .null | .bool _ => true
  | .number n => n.isFinite
  | .text s => !hasHalf s
  | .list xs => itemsAreStandard xs
  | .object fs => fieldsAreStandard fs

def itemsAreStandard : List Value → Bool
  | [] => true
  | x :: xs => x.isStandard && itemsAreStandard xs

def fieldsAreStandard : List (String × Value) → Bool
  | [] => true
  | (k, x) :: rest => !hasHalf k && x.isStandard && fieldsAreStandard rest

end
end Value
end ShapePuzzle
