import ShapePuzzle.Bank.Store
import ShapePuzzle.Json.Standard
import ShapePuzzle.Session.Id
import ShapePuzzle.Text.Blank
import ShapePuzzle.Text.Encoding
import ShapePuzzle.Text.LowerCase

/-!
# Requests

A request names its session by a text in its path and may bring a document as its body. All that is wrong with
the path and the body is told together, unless the body is no document at all.
-/
namespace ShapePuzzle

inductive Request where
  | index
  | create (fresh : SessionId) (body : Option String)
  | stats (path : String)
  | round (path : String)
  | guess (path : String) (body : Option String)
  | hint (path : String)
  | changeTier (path : String) (body : Option String)
  | figure (path : String)

/-- What names the session in the path. -/
def Request.path? : Request → Option String
  | .index | .create _ _ => none
  | .stats path | .round path | .guess path _ | .hint path | .changeTier path _ | .figure path => some path

inductive Refusal where
  | unreadable
  | invalid (issues : List Issue)
  | unquotable

namespace Request

def readId (path : String) : Checked SessionId :=
  match SessionId.parse? path with
  | some id => .good id
  | none => .bad [⟨[.key "path", .key "session_id"], .malformedId⟩]

def dropMark (s : String) : String :=
  match s.toList with
  | '\ufeff' :: rest => String.ofList rest
  | _ => s

/-- The document of a body; nothing if there is no body. -/
def document (body : Option String) : Except Refusal (Option Value) :=
  match body with
  | none | some "" => .ok none
  | some sent => match decode? sent with
    | none => .error .unreadable
    | some s => match Json.read (dropMark s) with
      | .ok v => .ok (some v)
      | .error .malformed => .error (.invalid [⟨[.key "body"], .notDocument⟩])
      | .error _ => .error .unreadable

/-- A refusal quotes what its issues are about. -/
def refusal (document : Option Value) (issues : List Issue) : Refusal :=
  let quoted := issues.filterMap (Issue.subject? (.object [("body", document.getD .null)]))
  if quoted.all Value.isStandard then .invalid issues else .unquotable

def readBody {α : Type} (read : Fields Value → Checked α) : Option Value → Checked α
  | none => (Checked.issue .missing).under (.key "body")
  | some (.object fs) => (read fs).under (.key "body")
  | some _ => (Checked.issue .notVariant).under (.key "body")

/-- Tier names are trimmed and in lower case; nothing stands for the default tier. -/
def tierName : Value → Checked String
  | .null | .text "" => .good Bank.defaultTier
  | v => match v.bare with
    | .ok s => .good (lowerCase (trimBlanks s))
    | .error _ => .issue .unwritable

def newTier (fs : Fields Value) : Checked String :=
  fs.optional "difficulty" Bank.defaultTier tierName

def otherTier (fs : Fields Value) : Checked String :=
  fs.required "difficulty" tierName

def statement (fs : Fields Value) : Checked String :=
  fs.required "statement" Value.asText

/-- What the body holds. -/
def received {α : Type} (body : Option String) (read : Fields Value → Checked α) : Except Refusal α := do
  let document ← document body
  match readBody read document with
  | .good a => return a
  | .bad issues => throw (refusal document issues)

/-- The session that the path names. -/
def addressed (path : String) : Except Refusal SessionId :=
  match readId path with
  | .good id => .ok id
  | .bad issues => .error (.invalid issues)

/-- The session that the path names and what the body holds. -/
def addressedWith {α : Type} (path : String) (body : Option String) (read : Fields Value → Checked α) :
    Except Refusal (SessionId × α) := do
  let document ← document body
  match Prod.mk <$> readId path <*> readBody read document with
  | .good found => return found
  | .bad issues => throw (refusal document issues)

end Request
end ShapePuzzle
