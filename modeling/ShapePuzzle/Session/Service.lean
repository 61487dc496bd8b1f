import ShapePuzzle.Figure.Basic
import ShapePuzzle.Session.Basic
import ShapePuzzle.Session.Request

/-!
# Answering requests

A fault that a request has no answer for is answered as an internal error; what was kept before it stays kept.
-/
namespace ShapePuzzle

structure Response where
  status : Nat
  body : Value

/-- What stands behind a fault, as far as answers tell it apart. -/
inductive Fault.Family where
  | load | distractors | template | unforeseen
  deriving DecidableEq

def Fault.family : Fault → Family
  | bankUnreadable | bankNotDocument | emptyTier _ => .load
  | distractorsExhausted _ _ _ _ => .distractors
  | unresolved _ | unknownDirection _ | incomparable _ _ _ | cannotEvaluate _ | unsupportedComparison _
  | boundNotInteger _ _ | noNeighborAction | invalidBank _ | noCell _ | noNeighbor _ => .template
  | _ => .unforeseen

namespace Response

def detail (status : Nat) (message : String) : Response :=
  ⟨status, .object [("detail", .text message)]⟩

def internalError : Response := ⟨500, .text "Internal Server Error"⟩

/-- An answer that standard JSON cannot hold fails while it is sent. -/
def sent (r : Response) : Response :=
  if r.body.isStandard then r else internalError

def notFound : Response := detail 404 "Not Found"
def methodNotAllowed : Response := detail 405 "Method Not Allowed"
def unknownSession : Response := detail 404 "Game session not found"
def noOpenRound : Response := detail 409 "No open round to guess on"
def nothingPlayed : Response := detail 409 "No round has been played yet"

def issueValue (i : Issue) : Value :=
  .list [.text i.place, .text i.problem.word]

def ofRefusal : Refusal → Response
  | .unreadable => detail 400 "There was an error parsing the body"
  | .unquotable => internalError
  | .invalid issues => ⟨422, .list ((Issue.report issues).map issueValue)⟩

/-- The answer to a round that could not be built. -/
def ofFault (e : Fault) : Response :=
  match e.family with
  | .load => detail 503 "Puzzle templates are unavailable"
  | .distractors => detail 500 "Could not build answer options for this round"
  | .template => detail 500 "Puzzle template error"
  | .unforeseen => internalError

end Response

namespace Session

def stats (s : Session) : Value :=
  .object [("id", .text s.id.text), ("difficulty", .text s.tier), ("puzzle_number", .int s.puzzles),
    ("correct_count", .int s.correct), ("current_streak", .int s.streak), ("is_locked", .bool s.locked)]

/-- A cell as it is shown to players, who get texts and whole numbers only. -/
def shownCell (fs : Fields Value) : Checked Value :=
  (fun shape color name number row col => .object [("shape", .text shape), ("color", .text color),
      ("color_name", .text name), ("number", .int number), ("row", .int row), ("col", .int col)]) <$>
    fs.required "shape" Value.asText <*> fs.required "color" Value.asText <*>
    fs.required "color_name" Value.asText <*> fs.required "number" Value.asInteger <*>
    fs.required "row" Value.asInteger <*> fs.required "col" Value.asInteger

def shownOption (o : AnswerOption) : Value :=
  .object [("text", .text o.text), ("formal_statement", .text o.formal)]

def shownRound (s : Session) : Checked Value :=
  (fun cells => .object [("session_id", .text s.id.text), ("difficulty", .text s.tier),
      ("puzzle_number", .int s.puzzles), ("grid", .list cells),
      ("options", .list ((s.options.getD []).map shownOption)),
      ("has_hint", .bool ((s.hint.getD "") ≠ ""))]) <$>
    Value.asList (Value.asRecord shownCell) (.list (s.grid.getD []))

end Session

namespace Lobby

def title : String := "Grid Logic Puzzle API"

def bank : Turn Lobby Bank :=
  Turn.within Lobby.store (fun store l => { l with store }) BankStore.bank

def withSession (id : SessionId) (work : Session → Turn Lobby Response) : Turn Lobby Response := do
  match (← Turn.subject).find? id with
  | some s => work s
  | none => return .unknownSession

/-- Keeps a session and answers, unless the session cannot be kept. -/
def keep (s : Session) (answer : Response) : Turn Lobby Response := do
  if !s.isStorable then return .internalError
  Turn.become ((← Turn.subject).put s)
  return answer

/-- A round with its grid written down. -/
def buildRound (tier : String) : Turn Lobby (Round × List Value) := do
  let r ← Round.generate (← bank) tier Round.defaultWanted Round.defaultAttempts
  return (r, ← Turn.ofExcept r.grid.snapshot)

/-- Builds a round before anything is kept; the answer is made from what was kept. -/
def playRound (s : Session) : Turn Lobby Response := do
  let (r, grid) ← buildRound s.tier
  let s := s.startRound r grid
  keep s (match s.shownRound with
    | .good body => ⟨200, body⟩
    | .bad _ => .internalError)

def showIndex : Turn Lobby Response := do
  let tiers := (← bank).keys
  return ⟨200, .object [("name", .text title), ("difficulties", .list (tiers.map .text)),
    ("default_difficulty", .text Bank.defaultTier)]⟩

/-- Opens a session under a fresh id. -/
def enter (id : SessionId) (tier : String) : Turn Lobby Response := do
  let s := Session.create id tier
  if !s.isStorable then return .internalError
  Turn.become ((← Turn.subject).add s)
  return ⟨201, s.stats⟩

def scoreGuess (guessed : String) (s : Session) : Turn Lobby Response := do
  if !s.hasOpenRound then return .noOpenRound
  let right := s.correctStatement = some guessed
  let s := s.guess right
  keep s ⟨200, .object [("is_correct", .bool right),
    ("correct_statement", .text (s.correctStatement.getD "")), ("stats", s.stats)]⟩

def showHint (s : Session) : Turn Lobby Response :=
  return if s.correctStatement.isSome then ⟨200, .object [("hint", .text (s.hint.getD ""))]⟩
    else .nothingPlayed

def showFigure (s : Session) : Turn Lobby Response := do
  match s.grid with
  | none | some [] => return .nothingPlayed
  | some items =>
    let g ← Turn.ofExcept (Grid.ofSnapshot items)
    return ⟨200, ← Turn.ofExcept (Figure.draw g Figure.defaultTitle)⟩

def moveTo (tier : String) (s : Session) : Turn Lobby Response :=
  let s := s.changeTier tier
  keep s ⟨200, s.stats⟩

/-- Goes on with what a request was found to ask for. -/
def accepted {α : Type} (asked : Except Refusal α) (work : α → Turn Lobby Response) : Turn Lobby Response :=
  match asked with
  | .ok a => work a
  | .error r => return .ofRefusal r

/-- Turns a fault into an answer; the lobby and the luck stay as the fault left them. -/
def recover (answer : Fault → Response) (work : Turn Lobby Response) : Turn Lobby Response := fun s =>
  match work s with
  | .ok r s => .ok r s
  | .error e s => .ok (answer e) s

/-- A path leads nowhere if the name of the session is empty or has a slash in it; without the name alone it leads
to where sessions are created. -/
def astray? (request : Request) : Option Response :=
  match request, request.path? with
  | .stats "", _ => some .methodNotAllowed
  | _, some path => if path = "" || path.contains '/' then some .notFound else none
  | _, none => none

def serve (request : Request) : Turn Lobby Response :=
  match request with
  | .index => recover (fun _ => .internalError) showIndex
  | .create fresh body => accepted (Request.received body Request.newTier) (enter fresh)
  | .stats path => accepted (Request.addressed path) fun id => withSession id fun s => return ⟨200, s.stats⟩
  | .round path => accepted (Request.addressed path) fun id => recover .ofFault (withSession id playRound)
  | .guess path body => accepted (Request.addressedWith path body Request.statement) fun (id, guessed) =>
    withSession id (scoreGuess guessed)
  | .hint path => accepted (Request.addressed path) fun id => withSession id showHint
  | .changeTier path body => accepted (Request.addressedWith path body Request.otherTier) fun (id, tier) =>
    withSession id (moveTo tier)
  | .figure path => accepted (Request.addressed path) fun id =>
    recover (fun _ => .internalError) (withSession id showFigure)

def answer (request : Request) : Turn Lobby Response := do
  match astray? request with
  | some r => return r
  | none => return (← serve request).sent

end Lobby
end ShapePuzzle
