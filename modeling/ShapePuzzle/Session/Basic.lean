import ShapePuzzle.Round
import ShapePuzzle.Schema.Cell
import ShapePuzzle.Session.Id

/-!
# Sessions

A session keeps the round that is played and the score since it was created or last changed its tier.
-/
namespace ShapePuzzle

structure AnswerOption where
  text : String
  formal : String
  deriving DecidableEq, Inhabited

structure Session where
  id : SessionId
  tier : String
  puzzles : Nat
  correct : Nat
  streak : Nat
  grid : Option (List Value)
  options : Option (List AnswerOption)
  correctStatement : Option String
  hint : Option String
  locked : Bool
  deriving Inhabited

namespace Session

/-- Texts that stand by themselves are kept only without halves of pairs, and a grid only if it can be written. -/
def isStorable (s : Session) : Bool :=
  !(hasHalf s.tier || s.correctStatement.any hasHalf || s.hint.any hasHalf) &&
    s.grid.all fun items => (Value.list items).isWritable

def create (id : SessionId) (tier : String) : Session :=
  ⟨id, tier, 0, 0, 0, none, none, none, none, true⟩

/-- A new tier starts afresh. -/
def changeTier (s : Session) (tier : String) : Session := create s.id tier

def hasOpenRound (s : Session) : Bool :=
  s.correctStatement.isSome && !s.locked

/-- Takes up a round whose grid has been written down. -/
def startRound (s : Session) (r : Round) (grid : List Value) : Session :=
  { s with
    tier := r.tier
    grid := some grid
    options := some (r.options.map fun o => ⟨o.text, o.formal⟩)
    correctStatement := some r.statement.text
    hint := some r.statement.hint
    puzzles := s.puzzles + 1
    locked := false }

/-- Scores a guess; there is one to a round. -/
def guess (s : Session) (right : Bool) : Session :=
  { s with
    correct := if right then s.correct + 1 else s.correct
    streak := if right then s.streak + 1 else 0
    locked := true }

end Session

/-- The sessions and the bank they play with. -/
structure Lobby where
  sessions : List Session
  store : BankStore

namespace Lobby

def find? (l : Lobby) (id : SessionId) : Option Session :=
  l.sessions.find? fun s => s.id = id

def add (l : Lobby) (s : Session) : Lobby :=
  { l with sessions := l.sessions ++ [s] }

def put (l : Lobby) (s : Session) : Lobby :=
  { l with sessions := l.sessions.map fun t => if t.id = s.id then s else t }

end Lobby
end ShapePuzzle
