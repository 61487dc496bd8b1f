import ShapePuzzle.Schema.Checked

/-!
# Where issues stand in a document

The steps of reading are followed through the document from its root. A step to what the document does not have
is passed over, and so are variants, unless a field goes by the same name.
-/
namespace ShapePuzzle

/-- What a step leads to. -/
def Value.at? : Value → Step → Option Value
  | .object fs, .key k | .object fs, .variant k => fs.lookup k
  | .list vs, .index i => vs[i]?
  | _, _ => none

namespace Step

def follow : Value → List Step → List Step
  | _, [] => []
  | v, s :: rest => match v.at? s with
    | some w => s :: follow w rest
    | none => follow v rest

end Step

/-- What a path leads to. -/
def Value.reach? : Value → List Step → Option Value
  | v, [] => some v
  | v, s :: rest => (v.at? s).bind fun w => w.reach? rest

namespace Issue

/-- The issue at its place in the document; the name of a missing field ends its path. -/
def locate (v : Value) (i : Issue) : Issue :=
  let last := if i.problem = .missing then i.path.getLast?.toList else []
  let inner := if i.problem = .missing then i.path.dropLast else i.path
  { i with path := Step.follow v inner ++ last }

end Issue

/-- What an issue is told about; a missing field is told about the record that lacks it. -/
def Issue.subject? (v : Value) (i : Issue) : Option Value :=
  v.reach? (if i.problem = .missing then i.path.dropLast else i.path)

/-- Reads a whole document. -/
def Value.examine {α : Type} (v : Value) (read : Value → Checked α) : Checked α :=
  match read v with
  | .good a => .good a
  | .bad issues => .bad (issues.map (Issue.locate v))

end ShapePuzzle
