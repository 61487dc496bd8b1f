import ShapePuzzle.Rule.Basic
import ShapePuzzle.Schema.Condition

/-!
# Actions and rules in a document
-/
namespace ShapePuzzle

def placeholderName : FieldName := ⟨"fromPlaceholder", "from_placeholder"⟩
def breakName : FieldName := ⟨"breakAntecedent", "break_antecedent"⟩

namespace CellAction

def readCondition (n : Nesting) (make : Condition → CellAction) (fs : Fields Value) : Checked CellAction :=
  make <$> fs.required "condition" (Condition.readAt n) <* fs.only ["action", "condition"]

def variants (n : Nesting) : Fields (Fields Value → Checked CellAction) :=
  [("setCellProperty", fun fs =>
      set <$> fs.required "property" Property.read <*> fs.required "value" Ref.read <*
        fs.only ["action", "property", "value"]),
    ("setCellPropertyDistinct", fun fs =>
      setDistinct <$> fs.required "property" Property.read <*> fs.required placeholderName Value.asText <*
        fs.only ["action", "property", placeholderName]),
    ("requireRegion", fun fs =>
      requireRegion <$> fs.required "direction" Ref.read <*> fs.required "size" Ref.read <*
        fs.only ["action", "direction", "size"]),
    ("ensureCellCondition", readCondition n ensure),
    ("breakCellCondition", readCondition n .break)]

def readAt (n : Nesting) : Value → Checked CellAction := Value.asVariant "action" (variants n)

def read : Value → Checked CellAction := readAt .outside

def toValue : CellAction → Value
  | set p v => .object [("action", .text "setCellProperty"), ("property", p.toValue), ("value", v.toValue)]
  | setDistinct p k =>
    .object [("action", .text "setCellPropertyDistinct"), ("property", p.toValue), ("fromPlaceholder", .text k)]
  | requireRegion d s =>
    .object [("action", .text "requireRegion"), ("direction", d.toValue), ("size", s.toValue)]
  | ensure c => .object [("action", .text "ensureCellCondition"), ("condition", c.toValue)]
  | .break c => .object [("action", .text "breakCellCondition"), ("condition", c.toValue)]

end CellAction

namespace ComparisonSpec

/-- The name of a comparison, else a reference; what is neither has the issues of both. -/
def read (v : Value) : Checked ComparisonSpec :=
  match Value.asNamed Comparison.ofName? v with
  | .good c => .good (named c)
  | .bad is => match Ref.read v with
    | .good r => .good (ref r)
    | .bad js => .bad (is ++ js)

def toValue : ComparisonSpec → Value
  | named c => .text c.name
  | ref r => r.toValue

end ComparisonSpec

namespace NeighborAction

def readNumber (make : ComparisonSpec → String → NeighborAction) (fs : Fields Value) :
    Checked NeighborAction :=
  make <$> fs.required "comparison" ComparisonSpec.read <*> fs.required "placeholder" Value.asText <*
    fs.only ["action", "comparison", "placeholder"]

def variants : Fields (Fields Value → Checked NeighborAction) :=
  [("setNeighborProperty", fun fs =>
      set <$> fs.required "property" Property.read <*> fs.required "value" Ref.read <*
        fs.only ["action", "property", "value"]),
    ("setNeighborPropertyDistinct", fun fs =>
      setDistinct <$> fs.required "property" Property.read <*> fs.required placeholderName Value.asText <*
        fs.only ["action", "property", placeholderName]),
    ("ensureNeighborNumber", readNumber ensureNumber),
    ("setNeighborNumberBreaking", readNumber breakNumber)]

def read : Value → Checked NeighborAction := Value.asVariant "action" variants

def toValue : NeighborAction → Value
  | set p v => .object [("action", .text "setNeighborProperty"), ("property", p.toValue), ("value", v.toValue)]
  | setDistinct p k =>
    .object [("action", .text "setNeighborPropertyDistinct"), ("property", p.toValue),
      ("fromPlaceholder", .text k)]
  | ensureNumber c k =>
    .object [("action", .text "ensureNeighborNumber"), ("comparison", c.toValue), ("placeholder", .text k)]
  | breakNumber c k =>
    .object [("action", .text "setNeighborNumberBreaking"), ("comparison", c.toValue),
      ("placeholder", .text k)]

end NeighborAction

/-- An action of an implication takes a place from the conditions inside it. -/
def Implication.readAction : Value → Checked CellAction := CellAction.readAt ⟨1, 0⟩

def Implication.read (fs : Fields Value) : Checked Implication :=
  Implication.mk <$> fs.optional "when" none (Value.nullable Condition.read) <*>
    fs.optional "actions" [] (Value.asList readAction) <*>
    fs.optional breakName none (Value.nullable readAction) <*>
    fs.optional "violation" none (Value.nullable readAction) <*
    fs.only ["type", "when", "actions", breakName, "violation"]

def Implication.toValue (r : Implication) : Value :=
  .object [("type", .text "implication"), ("when", optionalValue Condition.toValue r.antecedent),
    ("actions", .list (r.actions.map CellAction.toValue)),
    ("breakAntecedent", optionalValue CellAction.toValue r.breakAntecedent),
    ("violation", optionalValue CellAction.toValue r.violation)]

def NeighborSpec.read (fs : Fields Value) : Checked NeighborSpec :=
  NeighborSpec.mk <$> fs.required "direction" Ref.read <*>
    fs.optional "conditions" [] (Value.asList Condition.read) <*>
    fs.optional "satisfy" [] (Value.asList NeighborAction.read) <*>
    fs.optional "violation" none (Value.nullable NeighborAction.read) <*
    fs.only ["direction", "conditions", "satisfy", "violation"]

def NeighborSpec.toValue (s : NeighborSpec) : Value :=
  .object [("direction", s.direction.toValue), ("conditions", .list (s.conditions.map Condition.toValue)),
    ("satisfy", .list (s.satisfy.map NeighborAction.toValue)),
    ("violation", optionalValue NeighborAction.toValue s.violation)]

def Requirement.read (fs : Fields Value) : Checked Requirement :=
  Requirement.mk <$> fs.optional "when" none (Value.nullable Condition.read) <*>
    fs.required "neighbor" (Value.asClosedRecord NeighborSpec.read) <*>
    fs.optional breakName none (Value.nullable CellAction.read) <*
    fs.only ["type", "when", "neighbor", breakName]

def Requirement.toValue (r : Requirement) : Value :=
  .object [("type", .text "neighborRequirement"), ("when", optionalValue Condition.toValue r.antecedent),
    ("neighbor", r.neighbor.toValue), ("breakAntecedent", optionalValue CellAction.toValue r.breakAntecedent)]

namespace Rule

def variants : Fields (Fields Value → Checked Rule) :=
  [("implication", fun fs => implication <$> Implication.read fs),
    ("neighborRequirement", fun fs => requirement <$> Requirement.read fs)]

def read : Value → Checked Rule := Value.asVariant "type" variants

def toValue : Rule → Value
  | implication r => r.toValue
  | requirement r => r.toValue

end Rule
end ShapePuzzle
