import ShapePuzzle.Issue
import ShapePuzzle.Value.Basic

/-!
# Reading documents with every issue told

A reading succeeds or tells all issues at once, so that two readings of one document are both carried out.
-/
namespace ShapePuzzle

inductive Checked (α : Type) where
  | good (a : α)
  | bad (issues : List Issue)

namespace Checked
variable {α β : Type}

def map (f : α → β) : Checked α → Checked β
  | good a => good (f a)
  | bad is => bad is

def apply : Checked (α → β) → (Unit → Checked α) → Checked β
  | good f, x => (x ()).map f
  | bad is, x => match x () with
    | good _ => bad is
    | bad js => bad (is ++ js)

instance : Functor Checked := ⟨map, fun a => map fun _ => a⟩

instance : Applicative Checked where
  pure := good
  seq := apply

def issue (p : Problem) : Checked α := bad [⟨[], p⟩]

def under (s : Step) : Checked α → Checked α
  | good a => good a
  | bad is => bad (is.map (Issue.under s))

/-- A second reading of what was read; it is not begun if there are issues already. -/
def andThen (x : Checked α) (f : α → Checked β) : Checked β :=
  match x with
  | good a => f a
  | bad is => bad is

end Checked

/-- A field goes by its name or, if that is absent, by its other name. -/
structure FieldName where
  name : String
  other : String

instance : Coe String FieldName := ⟨fun s => ⟨s, s⟩⟩

namespace Fields
variable {α β : Type}

/-- The entry of a field with the name it was found under. -/
def find? (fs : Fields β) (n : FieldName) : Option (String × β) :=
  match fs.lookup n.name with
  | some b => some (n.name, b)
  | none => (fs.lookup n.other).map fun b => (n.other, b)

def required (fs : Fields β) (n : FieldName) (read : β → Checked α) : Checked α :=
  match fs.find? n with
  | some (k, b) => (read b).under (.key k)
  | none => .bad [⟨[.key n.name], .missing⟩]

def optional (fs : Fields β) (n : FieldName) (otherwise : α) (read : β → Checked α) : Checked α :=
  match fs.find? n with
  | some (k, b) => (read b).under (.key k)
  | none => .good otherwise

def isUsed (fs : Fields β) (names : List FieldName) (k : String) : Bool :=
  names.any fun n => n.name = k || n.other = k && !fs.has n.name

/-- A field whose name is no proper text spoils the whole record. -/
def legible (fs : Fields β) (x : Checked α) : Checked α :=
  if fs.keys.any hasHalf then .issue .unreadableText else x

/-- Every field has to be one of the names. -/
def only (fs : Fields β) (names : List FieldName) : Checked Unit :=
  match (fs.keys.filter fun k => !fs.isUsed names k).map fun k => (⟨[.key k], .unexpected⟩ : Issue) with
  | [] => .good ()
  | issues => .bad issues

end Fields

namespace Value
variable {α : Type}

def asText : Value → Checked String
  | .text s => .good s
  | _ => .issue .notText

/-- Null is read as nothing. -/
def nullable (read : Value → Checked α) : Value → Checked (Option α)
  | .null => .good none
  | v => some <$> read v

def asItems (read : Value → Checked α) : Nat → List Value → Checked (List α)
  | _, [] => .good []
  | k, v :: vs => List.cons <$> (read v).under (.index k) <*> asItems read (k + 1) vs

def asList (read : Value → Checked α) : Value → Checked (List α)
  | .list vs => asItems read 0 vs
  | _ => .issue .notList

/-- A list with at least one item. -/
def asNonempty (read : Value → Checked α) : Value → Checked (List α)
  | .list [] => .issue .tooShort
  | v => asList read v

def asRecord (read : Fields Value → Checked α) : Value → Checked α
  | .object fs => read fs
  | _ => .issue .notRecord

/-- A record that has no other fields than those it is read from. -/
def asClosedRecord (read : Fields Value → Checked α) : Value → Checked α :=
  asRecord fun fs => fs.legible (read fs)

/-- One of several records, told apart by the text of a field. -/
def asVariant (tag : String) (variants : Fields (Fields Value → Checked α)) : Value → Checked α
  | .object fs => match fs.lookup tag with
    | none => .issue .noTag
    | some (.text t) => match variants.lookup t with
      | some read => (Fields.legible fs (read fs)).under (.variant t)
      | none => .issue .unknownTag
    | some _ => .issue .unknownTag
  | _ => .issue .notVariant

def asEntries (read : Value → Checked α) : List (String × Value) → Checked (Fields α)
  | [] => .good []
  | (k, v) :: rest =>
    (fun a fs => (k, a) :: fs) <$> (read v).under (.key k) <*> asEntries read rest

def asFields (read : Value → Checked α) : Value → Checked (Fields α)
  | .object fs => asEntries read fs
  | _ => .issue .notObject

def asNamed (ofName? : String → Option α) : Value → Checked α
  | .text s => match ofName? s with
    | some a => .good a
    | none => .issue (if hasHalf s then .unreadableText else .notOneOf)
  | _ => .issue .notOneOf

end Value
end ShapePuzzle
