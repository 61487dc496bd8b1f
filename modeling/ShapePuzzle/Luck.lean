import ShapePuzzle.Value.Text

/-!
# Draws and warnings

Chance is an endless sequence of numbers read in order. A turn works on a subject with the luck at hand;
what it has done to both stays done when it stops with a fault.
-/
namespace ShapePuzzle

inductive Warning where
  | invertedInterval (low high : Int)
  | unresolvedTokens (keys : List String) (text : String)
  | antecedentKept (position : Position)
  | implicationKept
  | requirementKept
  | unknownTier (tier fallback : String)
  deriving DecidableEq

def Warning.message : Warning → String
  | invertedInterval low high => s!"Invalid interval [{low}, {high}]: min is greater than max, using min"
  | unresolvedTokens keys text =>
    let shown := Value.joined (keys.map quoted)
    s!"Unresolved template keys [{shown}] in '{text}'"
  | antecedentKept position =>
    s!"Could not break antecedent at ({position.row}, {position.col}); rule stays unsatisfied there"
  | implicationKept => "No cell can carry a counterexample to the implication; violation skipped"
  | requirementKept => "No cell can carry a counterexample to the neighbor requirement; violation skipped"
  | unknownTier tier fallback => s!"Invalid difficulty level '{tier}', defaulting to '{fallback}'"

structure Luck where
  source : Nat → Int
  drawn : Nat
  warnings : List Warning

namespace Luck

def start (source : Nat → Int) : Luck := ⟨source, 0, []⟩

/-- A list of numbers over and over. -/
def script (values : List Int) (k : Nat) : Int :=
  values.getD (k % values.length) 0

end Luck

abbrev Turn (σ : Type) := EStateM Fault (σ × Luck)

namespace Turn
variable {σ τ α : Type}

def ofExcept : Except Fault α → Turn σ α
  | .ok a => pure a
  | .error e => throw e

def subject : Turn σ σ := do return (← get).1

def become (s : σ) : Turn σ Unit := modify fun (_, luck) => (s, luck)

def warn (w : Warning) : Turn σ Unit :=
  modify fun (s, luck) => (s, { luck with warnings := luck.warnings ++ [w] })

/-- The next number of the sequence, brought below `n`. -/
def draw (n : Nat) : Turn σ Nat := fun (s, luck) =>
  .ok (luck.source luck.drawn % n).toNat (s, { luck with drawn := luck.drawn + 1 })

/-- Works on another subject and hands it back; only the luck goes on. -/
def aside (start : τ) (work : Turn τ α) : Turn σ (α × τ) := fun (s, luck) =>
  match work (start, luck) with
  | .ok a (t, luck) => .ok (a, t) (s, luck)
  | .error e (_, luck) => .error e (s, luck)

/-- Works on a part of the subject and keeps what became of it. -/
def within (part : σ → τ) (put : τ → σ → σ) (work : Turn τ α) : Turn σ α := fun (s, luck) =>
  match work (part s, luck) with
  | .ok a (t, luck) => .ok a (put t s, luck)
  | .error e (t, luck) => .error e (put t s, luck)

end Turn

variable {σ α : Type}

def pick : List α → Turn σ α
  | [] => throw .emptyChoice
  | x :: rest => do
    let k ← Turn.draw (rest.length + 1)
    return (x :: rest).getD k x

/-- An integer between two bounds; an inverted interval yields its lower bound. -/
def pickInteger (low high : Int) : Turn σ Int :=
  if high < low then do
    Turn.warn (.invertedInterval low high)
    return low
  else do
    let k ← Turn.draw (high - low + 1).toNat
    return low + k

/-- Exchanges each place from the last down to the second with one not after it. -/
def shuffleFrom : Nat → Array α → Turn σ (Array α)
  | 0, items => pure items
  | k + 1, items => do
    let j ← Turn.draw (k + 2)
    shuffleFrom k (items.swapIfInBounds (k + 1) j)

def shuffle (items : List α) : Turn σ (List α) := do
  return (← shuffleFrom (items.length - 1) items.toArray).toList

/-- A value of the domain that is not excluded, or any if all are. -/
def pickExcluding (domain excluded : List Value) : Turn σ Value :=
  match domain.filter fun v => !v.isIn excluded with
  | [] => pick domain
  | v :: rest => pick (v :: rest)

def pickDistinct (p : Property) (excluded : Value) : Turn σ Value :=
  pickExcluding p.domain [excluded]

end ShapePuzzle
