/-!
# What is wrong with a document

An issue names a place in the document and the problem found there.
-/
namespace ShapePuzzle

/-- A step of reading: to a field, to an item or into one of several variants. -/
inductive Step where
  | key (k : String)
  | index (i : Nat)
  | variant (tag : String)
  deriving DecidableEq

def Step.text : Step → String
  | key k | variant k => k
  | index i => toString i

/-- A name that is read where nothing before it declares it. -/
inductive Dangling where
  | placeholder (key reference : String)
  | field (key reference : String)
  | rule (index : Nat) (reference : String)
  deriving DecidableEq

def Dangling.message : Dangling → String
  | placeholder key reference => s!"Placeholder '{key}' references '{reference}' before it is declared"
  | field key reference => s!"Computed field '{key}' reads unknown key '{reference}'"
  | rule index reference => s!"Rule {index} references undeclared placeholder '{reference}'"

inductive Problem where
  | missing
  | unexpected
  | notText
  | unreadableText
  | notInteger
  | unreadableInteger
  | fractional
  | integerTooLarge
  | notFinite
  | notFloat
  | unreadableFloat
  | notList
  | notObject
  | notRecord
  | notVariant
  | notOneOf
  | noTag
  | unknownTag
  | nestedTooDeep
  | tooShort
  | malformedId
  | notDocument
  | unwritable
  | dangling (d : Dangling)
  deriving DecidableEq

namespace Problem

def word : Problem → String
  | missing => "missing"
  | unexpected => "extra_forbidden"
  | notText => "string_type"
  | unreadableText => "string_unicode"
  | notInteger => "int_type"
  | unreadableInteger => "int_parsing"
  | fractional => "int_from_float"
  | integerTooLarge => "int_parsing_size"
  | notFinite => "finite_number"
  | notFloat => "float_type"
  | unreadableFloat => "float_parsing"
  | notList => "list_type"
  | notObject => "dict_type"
  | notRecord => "model_type"
  | notVariant => "model_attributes_type"
  | notOneOf => "literal_error"
  | noTag => "union_tag_not_found"
  | unknownTag => "union_tag_invalid"
  | nestedTooDeep => "recursion_depth_exceeded"
  | tooShort => "too_short"
  | malformedId => "uuid_parsing"
  | notDocument => "json_invalid"
  | unwritable | dangling _ => "value_error"

def message? : Problem → Option String
  | dangling d => some ("Value error, " ++ d.message)
  | _ => none

end Problem

structure Issue where
  path : List Step
  problem : Problem
  deriving DecidableEq

namespace Issue

def place (i : Issue) : String :=
  String.intercalate "/" (i.path.map Step.text)

def under (s : Step) (i : Issue) : Issue :=
  { i with path := s :: i.path }

/-- The order of a report: by place, then by problem. -/
def precedes (i j : Issue) : Bool :=
  i.place < j.place || i.place = j.place && i.problem.word ≤ j.problem.word

def report (issues : List Issue) : List Issue :=
  issues.mergeSort precedes

end Issue
end ShapePuzzle
