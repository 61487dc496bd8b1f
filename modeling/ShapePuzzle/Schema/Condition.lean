import ShapePuzzle.Condition.Basic
import ShapePuzzle.Schema.Scalar

/-!
# Conditions in a document

Conditions may stand inside each other as long as there are places for all of them.
-/
namespace ShapePuzzle

def Property.read : Value → Checked Property := Value.asNamed Property.ofName?

def Property.toValue (p : Property) : Value := .text p.name

/-- The places taken by the conditions around a value and the highest rank among them. -/
structure Nesting where
  places : Nat
  rank : Nat

namespace Nesting

def mostPlaces : Nat := 255

def outside : Nesting := ⟨0, 0⟩

/-- A condition takes a place, and a second one if it outranks all the conditions around it. -/
def enter? (n : Nesting) (rank : Nat) : Option Nesting :=
  let places := n.places + if n.rank < rank then 2 else 1
  if places ≤ mostPlaces then some ⟨places, max n.rank rank⟩ else none

def isFull (n : Nesting) : Bool := mostPlaces ≤ n.places

end Nesting

namespace Ref

def readKey (make : String → Ref) (fs : Fields Value) : Checked Ref :=
  make <$> fs.required "key" Value.asText <* fs.only ["kind", "key"]

def readProperty (make : Property → Ref) (fs : Fields Value) : Checked Ref :=
  make <$> fs.required "property" Property.read <* fs.only ["kind", "property"]

def variants : Fields (Fields Value → Checked Ref) :=
  [("placeholder", readKey placeholder),
    ("placeholderName", readKey placeholderName),
    ("cellProperty", readProperty cellProperty),
    ("neighborProperty", readProperty neighborProperty),
    ("constant", fun fs => constant <$> fs.required "value" .good <* fs.only ["kind", "value"]),
    ("number", fun fs => number <$> fs.required "value" Value.asNumber <* fs.only ["kind", "value"])]

def read : Value → Checked Ref := Value.asVariant "kind" variants

/-- Variants for which no place is left. -/
def crowdedOut : Fields (Fields Value → Checked Ref) :=
  variants.map fun (kind, _) => (kind, fun _ => .issue .nestedTooDeep)

/-- A reference that takes a place of its own. -/
def readAt (n : Nesting) : Value → Checked Ref :=
  Value.asVariant "kind" (if n.isFull then crowdedOut else variants)

def toValue : Ref → Value
  | placeholder k => .object [("kind", .text "placeholder"), ("key", .text k)]
  | placeholderName k => .object [("kind", .text "placeholderName"), ("key", .text k)]
  | cellProperty p => .object [("kind", .text "cellProperty"), ("property", p.toValue)]
  | neighborProperty p => .object [("kind", .text "neighborProperty"), ("property", p.toValue)]
  | constant v => .object [("kind", .text "constant"), ("value", v)]
  | number n => .object [("kind", .text "number"), ("value", .number n)]

end Ref

namespace Condition

def lowName : FieldName := ⟨"min", "low"⟩
def highName : FieldName := ⟨"max", "high"⟩

/-- What a field holds if it is read as a reference, as a condition and as a list of conditions. -/
structure Part where
  value : Value
  ref : Checked Ref
  one : Checked Condition
  many : Checked (List Condition)

abbrev Assembly := Fields Part → Checked Condition

def comparing (c : Comparison) : Assembly := fun fs =>
  compare c <$> fs.required "left" Part.ref <*> fs.required "right" Part.ref <*
    fs.only ["operator", "left", "right"]

def variants : Fields Assembly :=
  [("all", fun fs => all <$> fs.optional "conditions" [] Part.many <* fs.only ["operator", "conditions"]),
    ("any", fun fs => any <$> fs.optional "conditions" [] Part.many <* fs.only ["operator", "conditions"]),
    ("not", fun fs => not <$> fs.required "condition" Part.one <* fs.only ["operator", "condition"]),
    ("between", fun fs =>
      between <$> fs.required "value" Part.ref <*> fs.required lowName Part.ref <*>
        fs.required highName Part.ref <* fs.only ["operator", "value", lowName, highName]),
    ("parity", fun fs =>
      parity <$> fs.required "value" Part.ref <*> fs.required "parity" Part.ref <*
        fs.only ["operator", "value", "parity"]),
    ("prime", fun fs =>
      prime <$> fs.required "value" (fun p => Ref.read p.value) <* fs.only ["operator", "value"]),
    ("multipleOf", fun fs =>
      multipleOf <$> fs.required "value" Part.ref <*> fs.required "factor" Part.ref <*
        fs.only ["operator", "value", "factor"]),
    ("inRegion", fun fs =>
      inRegion <$> fs.required "direction" Part.ref <*> fs.required "size" Part.ref <*
        fs.only ["operator", "direction", "size"])] ++
    Comparison.all.map fun c => (c.name, comparing c)

/-- How the parts make a condition, chosen by the operator. -/
def choose (operator : Option Value) : Except Problem (String × Assembly) :=
  match operator with
  | none => .error .noTag
  | some (.text t) => match variants.lookup t with
    | some assembly => .ok (t, assembly)
    | none => .error .unknownTag
  | some _ => .error .unknownTag

def rank : String → Nat
  | "not" => 1
  | "any" => 2
  | "all" => 3
  | _ => 0

mutual

def readAt (n : Nesting) : Value → Checked Condition
  | .object fs => match choose (fs.lookup "operator") with
    | .error problem => .issue problem
    | .ok (t, assembly) => Checked.under (.variant t) <| match n.enter? (rank t) with
      | none => .issue .nestedTooDeep
      | some n =>
        let parts := readParts n fs
        parts.legible (assembly parts)
  | _ => .issue .notVariant

def readParts (n : Nesting) : List (String × Value) → Fields Part
  | [] => []
  | (k, v) :: rest => (k, ⟨v, Ref.readAt n v, readAt n v, readMany n v⟩) :: readParts n rest

def readMany (n : Nesting) : Value → Checked (List Condition)
  | .list vs => readItems n 0 vs
  | _ => .issue .notList

def readItems (n : Nesting) : Nat → List Value → Checked (List Condition)
  | _, [] => .good []
  | k, v :: vs => List.cons <$> (readAt n v).under (.index k) <*> readItems n (k + 1) vs

end

def read : Value → Checked Condition := readAt .outside

mutual

def toValue : Condition → Value
  | .all cs => .object [("operator", .text "all"), ("conditions", .list (toValues cs))]
  | .any cs => .object [("operator", .text "any"), ("conditions", .list (toValues cs))]
  | .not c => .object [("operator", .text "not"), ("condition", c.toValue)]
  | .compare c l r => .object [("operator", .text c.name), ("left", l.toValue), ("right", r.toValue)]
  | .between v l h =>
    .object [("operator", .text "between"), ("value", v.toValue), ("min", l.toValue), ("max", h.toValue)]
  | .parity v p => .object [("operator", .text "parity"), ("value", v.toValue), ("parity", p.toValue)]
  | .prime v => .object [("operator", .text "prime"), ("value", v.toValue)]
  | .multipleOf v f => .object [("operator", .text "multipleOf"), ("value", v.toValue), ("factor", f.toValue)]
  | .inRegion d s => .object [("operator", .text "inRegion"), ("direction", d.toValue), ("size", s.toValue)]

def toValues : List Condition → List Value
  | [] => []
  | c :: cs => c.toValue :: toValues cs

end
end Condition

/-- Nothing is written as null. -/
def optionalValue {α : Type} (write : α → Value) : Option α → Value
  | none => .null
  | some a => write a

end ShapePuzzle
