import ShapePuzzle.Bank.Store

/-!
# Rounds

A statement, a grid on which it holds and, around it, statements that do not hold there.
-/
namespace ShapePuzzle

structure Round where
  tier : String
  template : Template
  statement : Statement
  grid : Grid
  options : List Statement

namespace Round

/-- Where the first option with the text of the statement stands. -/
def correctIndex (r : Round) : Nat :=
  r.options.findIdx fun o => o.text = r.statement.text

/-- What a search for false statements has found: the statements accepted, the templates used and the texts
taken. -/
structure Search where
  accepted : List Statement
  used : List Nat
  texts : List String

namespace Search

def accept (s : Search) (k : Nat) (candidate : Statement) : Search :=
  ⟨s.accepted ++ [candidate], k :: s.used, candidate.text :: s.texts⟩

/-- A template not used yet, or any if all are used. -/
def pickTemplate (s : Search) (bank : List (Template × Nat)) {σ : Type} : Turn σ (Template × Nat) :=
  match bank.filter fun t => !s.used.contains t.2 with
  | [] => pick bank
  | t :: rest => pick (t :: rest)

/-- One attempt: a statement with a new text that does not hold on the grid is accepted. -/
def attempt (s : Search) (bank : List (Template × Nat)) (g : Grid) {σ : Type} : Turn σ Search := do
  let (template, k) ← s.pickTemplate bank
  let candidate ← template.state
  if s.texts.contains candidate.text then return s
  if ← Turn.ofExcept (template.verify g candidate.details) then return s
  return s.accept k candidate

def run (bank : List (Template × Nat)) (g : Grid) (wanted : Int) {σ : Type} : Nat → Search → Turn σ Search
  | 0, s => return s
  | attempts + 1, s =>
    if wanted ≤ s.accepted.length then return s
    else do run bank g wanted attempts (← s.attempt bank g)

end Search

/-- False statements with texts of their own, from templates not used yet as long as there are any. -/
def distractors (bank : List Template) (correct : Template × Nat) (statement : Statement) (g : Grid)
    (wanted attempts : Int) {σ : Type} : Turn σ (List Statement) := do
  let found ← Search.run bank.zipIdx g wanted attempts.toNat ⟨[], [correct.2], [statement.text]⟩
  if found.accepted.length < wanted then
    throw (.distractorsExhausted found.accepted.length wanted correct.1.name attempts)
  return found.accepted

def build (bank : List Template) (tier : String) (wanted attempts : Int) {σ : Type} : Turn σ Round := do
  let (template, k) ← pick bank.zipIdx
  let statement ← template.state
  let grid ← template.buildGrid standardSize true statement.details
  let others ← distractors bank (template, k) statement grid wanted attempts
  let options ← shuffle (statement :: others)
  return ⟨tier, template, statement, grid, options⟩

def defaultWanted : Int := 3
def defaultAttempts : Int := 60

/-- A round of a tier, or of the default tier if there is no such tier. -/
def generate (b : Bank) (tier : String) (wanted attempts : Int) {σ : Type} : Turn σ Round := do
  let (tier, templates) ← b.choose tier
  build templates tier wanted attempts

end Round
end ShapePuzzle
