import ShapePuzzle.Condition.Evaluation

/-!
# Forcing a condition onto a cell

Values are drawn from the domains, one property after the other; the position of the cell stays.
-/
namespace ShapePuzzle.Condition

def onCell (c : Condition) (details : Details) (size : Int) : Turn Cell Bool := do
  .ofExcept (c.evaluate ((← Turn.subject).context details size))

/-- The values of a property under which the condition holds on the cell. -/
def fitting (c : Condition) (details : Details) (size : Int) (cell : Cell) (p : Property) :
    List Value → Except Fault (List Value)
  | [] => .ok []
  | v :: vs => do
    let holds ← c.evaluate ((cell.set p v).context details size)
    let rest ← fitting c details size cell p vs
    return if holds then v :: rest else rest

/-- Gives the cell a fitting value of the property, unless it has one. -/
def fill (c : Condition) (details : Details) (size : Int) (p : Property) : Turn Cell Unit := do
  let cell ← Turn.subject
  let values ← Turn.ofExcept (c.fitting details size cell p p.domain)
  if values.isEmpty || (cell.get p).isIn values then return ()
  Turn.become (cell.set p (← pick values))

/-- Fills the properties until the condition holds. -/
def fillEach (c : Condition) (details : Details) (size : Int) : List Property → Turn Cell Unit
  | [] => return ()
  | p :: ps => do
    if ← c.onCell details size then return ()
    c.fill details size p
    c.fillEach details size ps

/-- Fills the properties and says whether the condition came to hold. -/
def refill (c : Condition) (details : Details) (size : Int) : List Property → Turn Cell Bool
  | [] => return false
  | p :: ps => do
    c.fill details size p
    if ← c.onCell details size then return true
    c.refill details size ps

/-- Works on the cell unless the condition holds; parts that were forced one by one may have undone each
other, so in the end the properties are filled for the whole condition. -/
def attempt (c : Condition) (details : Details) (size : Int) (work : Turn Cell Unit) : Turn Cell Bool := do
  if ← c.onCell details size then return true
  work
  if ← c.onCell details size then return true
  c.refill details size c.properties

mutual

/-- Makes the condition hold on the cell if it can; says whether it holds. -/
def force (details : Details) (size : Int) : Condition → Turn Cell Bool
  | .all cs => attempt (.all cs) details size (forceAll details size cs)
  | .any cs => attempt (.any cs) details size (forceAny details size cs)
  | c => attempt c details size (fillEach c details size c.properties)

def forceAll (details : Details) (size : Int) : List Condition → Turn Cell Unit
  | [] => return ()
  | c :: cs => do
    let _ ← c.force details size
    forceAll details size cs

def forceAny (details : Details) (size : Int) : List Condition → Turn Cell Unit
  | [] => return ()
  | c :: cs => do
    if ← c.force details size then return () else forceAny details size cs

end

def force? (details : Details) (size : Int) : Option Condition → Turn Cell Bool
  | none => return true
  | some c => c.force details size

end ShapePuzzle.Condition
