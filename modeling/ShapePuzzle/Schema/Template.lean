import ShapePuzzle.Schema.Rule
import ShapePuzzle.Template.Basic

/-!
# Templates and banks in a document

Placeholders are drawn in the order in which they stand, so every name has to be declared before it is read.
-/
namespace ShapePuzzle

namespace Range

def names : List FieldName :=
  [⟨"min", "low"⟩, ⟨"max", "high"⟩, ⟨"minRef", "min_ref"⟩, ⟨"maxRef", "max_ref"⟩,
    ⟨"minOffset", "min_offset"⟩, ⟨"maxOffset", "max_offset"⟩, "type"]

def read (fs : Fields Value) : Checked Range :=
  Range.mk <$> fs.optional ⟨"min", "low"⟩ none (Value.nullable Value.asInteger) <*>
    fs.optional ⟨"max", "high"⟩ none (Value.nullable Value.asInteger) <*>
    fs.optional ⟨"minRef", "min_ref"⟩ none (Value.nullable Value.asText) <*>
    fs.optional ⟨"maxRef", "max_ref"⟩ none (Value.nullable Value.asText) <*>
    fs.optional ⟨"minOffset", "min_offset"⟩ 0 Value.asInteger <*>
    fs.optional ⟨"maxOffset", "max_offset"⟩ 0 Value.asInteger <* fs.only names

def toFields (r : Range) : Fields Value :=
  [("min", optionalValue Value.int r.low), ("max", optionalValue Value.int r.high),
    ("minRef", optionalValue Value.text r.lowRef), ("maxRef", optionalValue Value.text r.highRef),
    ("minOffset", .int r.lowOffset), ("maxOffset", .int r.highOffset)]

end Range

namespace Placeholder

def excludeName : FieldName := ⟨"excludePlaceholders", "exclude_placeholders"⟩

def readExcluding (make : List String → Placeholder) (fs : Fields Value) : Checked Placeholder :=
  make <$> fs.optional excludeName [] (Value.asList Value.asText) <* fs.only ["type", excludeName]

def variants : Fields (Fields Value → Checked Placeholder) :=
  [("shape", readExcluding shape),
    ("color", readExcluding color),
    ("number", fun fs => number <$> Range.read fs),
    ("int", fun fs => int <$> Range.read fs),
    ("choice", fun fs =>
      choice <$> fs.required "options" (Value.asNonempty .good) <* fs.only ["type", "options"]),
    ("comparison", fun fs =>
      comparison <$> fs.optional "options" comparisonWords (Value.asNonempty Value.asText) <*
        fs.only ["type", "options"]),
    ("parity", fun fs => (fun _ => parity) <$> fs.only ["type"]),
    ("factor", fun fs =>
      factor <$> fs.optional "options" factors (Value.asNonempty Value.asInteger) <*
        fs.only ["type", "options"])]

def read : Value → Checked Placeholder := Value.asVariant "type" variants

def texts (ss : List String) : Value := .list (ss.map .text)

def toValue : Placeholder → Value
  | shape excluded => .object [("type", .text "shape"), ("excludePlaceholders", texts excluded)]
  | color excluded => .object [("type", .text "color"), ("excludePlaceholders", texts excluded)]
  | number r => .object (r.toFields ++ [("type", .text "number")])
  | int r => .object (r.toFields ++ [("type", .text "int")])
  | choice options => .object [("type", .text "choice"), ("options", .list options)]
  | comparison options => .object [("type", .text "comparison"), ("options", texts options)]
  | parity => .object [("type", .text "parity")]
  | factor options => .object [("type", .text "factor"), ("options", .list (options.map Value.int))]

end Placeholder

namespace ComputedField

def readSourced (make : String → String → ComputedField) (fs : Fields Value) : Checked ComputedField :=
  make <$> fs.required "key" Value.asText <*> fs.required "source" Value.asText <*
    fs.only ["key", "source", "type"]

def directionName : FieldName := ⟨"directionKey", "direction_key"⟩
def sizeName : FieldName := ⟨"sizeKey", "size_key"⟩

def variants : Fields (Fields Value → Checked ComputedField) :=
  [("colorName", readSourced colorName),
    ("comparisonWord", readSourced comparisonWord),
    ("comparisonSymbol", readSourced comparisonSymbol),
    ("parityPredicate", readSourced parityPredicate),
    ("regionDescription", fun fs =>
      regionDescription <$> fs.required "key" Value.asText <*> fs.required directionName Value.asText <*>
        fs.required sizeName Value.asText <* fs.only ["type", "key", directionName, sizeName]),
    ("stringTemplate", fun fs =>
      stringTemplate <$> fs.required "key" Value.asText <*> fs.required "template" Value.asText <*
        fs.only ["type", "key", "template"])]

def read : Value → Checked ComputedField := Value.asVariant "type" variants

def sourced (type key source : String) : Value :=
  .object [("key", .text key), ("source", .text source), ("type", .text type)]

def toValue : ComputedField → Value
  | colorName k s => sourced "colorName" k s
  | comparisonWord k s => sourced "comparisonWord" k s
  | comparisonSymbol k s => sourced "comparisonSymbol" k s
  | parityPredicate k s => sourced "parityPredicate" k s
  | regionDescription k d s =>
    .object [("type", .text "regionDescription"), ("key", .text k), ("directionKey", .text d),
      ("sizeKey", .text s)]
  | stringTemplate k t => .object [("type", .text "stringTemplate"), ("key", .text k), ("template", .text t)]

end ComputedField

namespace StatementText

def read (fs : Fields Value) : Checked StatementText :=
  StatementText.mk <$> fs.required "text" Value.asText <*> fs.required "fol" Value.asText <*>
    fs.optional "hint" "" Value.asText <* fs.only ["text", "fol", "hint"]

def toValue (s : StatementText) : Value :=
  .object [("text", .text s.text), ("fol", .text s.formal), ("hint", .text s.hint)]

end StatementText

namespace Template

def fieldsName : FieldName := ⟨"computedFields", "computed_fields"⟩

def firstUnknown (known refs : List String) : Option String :=
  refs.find? fun r => !known.contains r

def checkPlaceholders (known : List String) : Fields Placeholder → Except Dangling (List String)
  | [] => .ok known
  | (key, p) :: rest => match firstUnknown known p.references with
    | some r => .error (.placeholder key r)
    | none => checkPlaceholders (key :: known) rest

def checkFields (known : List String) : List ComputedField → Except Dangling (List String)
  | [] => .ok known
  | f :: rest => match firstUnknown known f.references with
    | some r => .error (.field f.key r)
    | none => checkFields (f.key :: known) rest

def checkRules (known : List String) : Nat → List Rule → Except Dangling Unit
  | _, [] => .ok ()
  | k, rule :: rest => match firstUnknown known rule.keys with
    | some r => .error (.rule k r)
    | none => checkRules known (k + 1) rest

/-- Every name that is read has been declared before. -/
def checkReferences (t : Template) : Except Dangling Unit := do
  let known ← checkPlaceholders [] t.placeholders
  let known ← checkFields known t.fields
  checkRules known 0 t.rules

def assemble (fs : Fields Value) : Checked Template :=
  Template.mk <$> fs.optional "id" none (Value.nullable Value.asText) <*>
    fs.optional "description" none (Value.nullable Value.asText) <*>
    fs.optional "placeholders" [] (Value.asFields Placeholder.read) <*>
    fs.optional fieldsName [] (Value.asList ComputedField.read) <*>
    fs.required "statement" (Value.asClosedRecord StatementText.read) <*>
    fs.required "rules" (Value.asNonempty Rule.read) <*
    fs.only ["id", "description", "placeholders", fieldsName, "statement", "rules"]

def read : Value → Checked Template :=
  Value.asClosedRecord fun fs => (assemble fs).andThen fun t => match t.checkReferences with
    | .ok () => .good t
    | .error d => .issue (.dangling d)

def toValue (t : Template) : Value :=
  .object [("id", optionalValue Value.text t.id), ("description", optionalValue Value.text t.description),
    ("placeholders", .object (t.placeholders.map fun (k, p) => (k, p.toValue))),
    ("computedFields", .list (t.fields.map ComputedField.toValue)), ("statement", t.statement.toValue),
    ("rules", .list (t.rules.map Rule.toValue))]

end Template

/-- Templates by tier, the tiers in the order of the document. -/
abbrev Bank := Fields (List Template)

namespace Bank

def read : Value → Checked Bank := Value.asFields (Value.asList Template.read)

/-- The names of the templates of each tier. -/
def names (b : Bank) : Fields (List String) :=
  b.map fun (tier, templates) => (tier, templates.map Template.name)

end Bank
end ShapePuzzle
