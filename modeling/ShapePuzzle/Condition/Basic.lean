import ShapePuzzle.Cell
import ShapePuzzle.Comparison

/-!
# References to values and conditions over them
-/
namespace ShapePuzzle

inductive Ref where
  | placeholder (key : String)
  | placeholderName (key : String)
  | cellProperty (p : Property)
  | neighborProperty (p : Property)
  | constant (v : Value)
  | number (n : Number)
  deriving Inhabited

namespace Ref

def reads : Ref → Property → Bool
  | cellProperty p, q => p = q
  | _, _ => false

def keys : Ref → List String
  | placeholder k | placeholderName k => [k]
  | _ => []

end Ref

inductive Condition where
  | all (conditions : List Condition)
  | any (conditions : List Condition)
  | not (condition : Condition)
  | compare (comparison : Comparison) (left right : Ref)
  | between (value low high : Ref)
  | parity (value parity : Ref)
  | prime (value : Ref)
  | multipleOf (value factor : Ref)
  | inRegion (direction size : Ref)
  deriving Inhabited

namespace Condition

mutual

/-- Whether the condition looks at a property of the cell. -/
def reads : Condition → Property → Bool
  | .all cs, p | .any cs, p => someReads cs p
  | .not c, p => c.reads p
  | .compare _ l r, p => l.reads p || r.reads p
  | .between v l h, p => v.reads p || l.reads p || h.reads p
  | .parity v w, p => v.reads p || w.reads p
  | .prime v, p => v.reads p
  | .multipleOf v f, p => v.reads p || f.reads p
  | .inRegion d s, p => d.reads p || s.reads p

def someReads : List Condition → Property → Bool
  | [], _ => false
  | c :: cs, p => c.reads p || someReads cs p

end

/-- The properties of the cell that the condition looks at, in the order of their names. -/
def properties (c : Condition) : List Property :=
  Property.all.filter c.reads

mutual

/-- The placeholders that the condition reads, in the order in which they stand. -/
def keys : Condition → List String
  | .all cs | .any cs => keysOf cs
  | .not c => c.keys
  | .compare _ l r => l.keys ++ r.keys
  | .between v l h => v.keys ++ l.keys ++ h.keys
  | .parity v w => v.keys ++ w.keys
  | .prime v => v.keys
  | .multipleOf v f => v.keys ++ f.keys
  | .inRegion d s => d.keys ++ s.keys

def keysOf : List Condition → List String
  | [] => []
  | c :: cs => c.keys ++ keysOf cs

end
end Condition
end ShapePuzzle
