import ShapePuzzle.Number.Basic
import ShapePuzzle.Text.Quoted

/-!
# Values

What a document, a cell or the details of a statement hold. The fields of an object keep their order.
-/
namespace ShapePuzzle

/-- Collections that stand deeper inside one another are neither read nor written. -/
def deepestNesting : Nat := 989

/-- Named entries in the order in which the names first came. -/
abbrev Fields (α : Type) := List (String × α)

namespace Fields
variable {α : Type}

/-- A known name keeps its place and takes the new entry. -/
def put : Fields α → String → α → Fields α
  | [], k, a => [(k, a)]
  | (j, b) :: rest, k, a => if j = k then (j, a) :: rest else (j, b) :: put rest k a

def has (fs : Fields α) (k : String) : Bool :=
  (fs.lookup k).isSome

def keys (fs : Fields α) : List String :=
  fs.map Prod.fst

@[simp] theorem lookup_put_self (fs : Fields α) (k : String) (a : α) : (fs.put k a).lookup k = some a := by
  induction fs with
  | nil => simp [put]
  | cons f rest ih =>
    obtain ⟨j, b⟩ := f
    by_cases h : j = k
    · simp [put, h]
    · have hk : (k == j) = false := by simpa using fun e => h e.symm
      simp [put, h, List.lookup_cons, hk, ih]

theorem lookup_put_of_ne (fs : Fields α) {j k : String} (h : j ≠ k) (a : α) :
    (fs.put k a).lookup j = fs.lookup j := by
  induction fs with
  | nil =>
    have hk : (j == k) = false := by simpa using h
    simp [put, List.lookup_cons, hk]
  | cons f rest ih =>
    obtain ⟨i, b⟩ := f
    by_cases hi : i = k
    · subst hi
      have hk : (j == i) = false := by simpa using h
      simp [put, List.lookup_cons, hk]
    · simp [put, hi, List.lookup_cons, ih]

theorem mem_of_lookup {fs : Fields α} {k : String} {a : α} (h : fs.lookup k = some a) : (k, a) ∈ fs := by
  obtain ⟨_, _, rfl, -⟩ := List.lookup_eq_some_iff.1 h
  simp

/-- An entry is new or was there before. -/
theorem eq_or_mem_of_mem_put {fs : Fields α} {k : String} {a : α} {f : String × α} (h : f ∈ fs.put k a) :
    f.2 = a ∨ f ∈ fs := by
  induction fs with
  | nil =>
    obtain rfl := List.mem_singleton.1 h
    exact .inl rfl
  | cons g rest ih =>
    obtain ⟨j, b⟩ := g
    rw [put] at h
    split at h
    · rcases List.mem_cons.1 h with rfl | h
      · exact .inl rfl
      · exact .inr (List.mem_cons_of_mem _ h)
    · rcases List.mem_cons.1 h with rfl | h
      · exact .inr List.mem_cons_self
      · exact (ih h).imp_right (List.mem_cons_of_mem _)

/-- A new name comes last. -/
theorem keys_put (fs : Fields α) (k : String) (a : α) :
    (fs.put k a).keys = if k ∈ fs.keys then fs.keys else fs.keys ++ [k] := by
  induction fs with
  | nil => simp [put, keys]
  | cons f rest ih =>
    obtain ⟨j, b⟩ := f
    by_cases h : j = k
    · simp [put, keys, h]
    · have hk : k ≠ j := fun e => h e.symm
      simp only [keys] at ih
      by_cases hm : k ∈ rest.map Prod.fst
      · simp [put, keys, h, ih, hm]
      · simp [put, keys, h, hk, ih, hm]

theorem has_put (fs : Fields α) (j k : String) (a : α) : (fs.put k a).has j = (j = k || fs.has j) := by
  by_cases h : j = k
  · subst h; simp [has]
  · simp [has, lookup_put_of_ne fs h, h]

end Fields

inductive Value where
  | null
  | bool (b : Bool)
  | number (n : Number)
  | text (s : String)
  | list (items : List Value)
  | object (fields : List (String × Value))
  deriving Inhabited

namespace Value

abbrev int (n : Int) : Value := .number (.int n)

abbrev float (x : Binary64) : Value := .number (.float x)

/-- A truth value counts as one or nought. -/
def number? : Value → Option Number
  | .bool b => some (.int (if b then 1 else 0))
  | .number n => some n
  | _ => none

def isNaN : Value → Bool
  | .number n => n.isNaN
  | _ => false

def isTruthy : Value → Bool
  | .null => false
  | .bool b => b
  | .number n => !n.equals (.int 0)
  | .text s => s ≠ ""
  | .list xs => !xs.isEmpty
  | .object fs => !fs.isEmpty

mutual

/-- Loose equality: numbers and truth values by what they count, objects whatever the order of their fields. -/
def same : Value → Value → Bool
  | .null, .null => true
  | .text s, .text t => s = t
  | .list xs, .list ys => sameItems xs ys
  | .object fs, .object gs => fs.length = gs.length && sameFields fs gs
  | .bool a, w => match w.number? with
    | some n => Number.equals (.int (if a then 1 else 0)) n
    | none => false
  | .number m, w => match w.number? with
    | some n => m.equals n
    | none => false
  | _, _ => false

/-- Inside a collection a value that is not a number is the same as itself. -/
def sameItems : List Value → List Value → Bool
  | [], [] => true
  | x :: xs, y :: ys => (x.same y || x.isNaN && y.isNaN) && sameItems xs ys
  | _, _ => false

def sameFields : List (String × Value) → List (String × Value) → Bool
  | [], _ => true
  | (k, x) :: rest, gs =>
    (match gs.lookup k with
    | some y => x.same y || x.isNaN && y.isNaN
    | none => false) && sameFields rest gs

end

def sameItem (x y : Value) : Bool :=
  x.same y || x.isNaN && y.isNaN

def isIn (x : Value) (xs : List Value) : Bool :=
  xs.any x.sameItem

/-- Equality of values of one kind; integers and floats are one kind, truth values another. -/
def strictlyEquals : Value → Value → Bool
  | .null, .null => true
  | .bool a, .bool b => a = b
  | .number m, .number n => m.equals n
  | .text s, .text t => s = t
  | .list xs, .list ys => sameItems xs ys
  | .object fs, .object gs => (Value.object fs).same (.object gs)
  | _, _ => false

mutual

/-- Whether the order of two values is accepted; nothing if they have none. Lists go by their first difference. -/
def ordered? (accept : Ordering → Bool) : Value → Value → Option Bool
  | .text s, .text t => some (accept (compare (codes s) (codes t)))
  | .list xs, .list ys => orderedItems? accept xs ys
  | .bool a, w => (w.number?).map fun n =>
    ((Number.int (if a then 1 else 0)).compare? n).any accept
  | .number m, w => (w.number?).map fun n => (m.compare? n).any accept
  | _, _ => none

def orderedItems? (accept : Ordering → Bool) : List Value → List Value → Option Bool
  | [], [] => some (accept .eq)
  | [], _ :: _ => some (accept .lt)
  | _ :: _, [] => some (accept .gt)
  | x :: xs, y :: ys => if x.sameItem y then orderedItems? accept xs ys else x.ordered? accept y

end

def lt? : Value → Value → Option Bool := ordered? Ordering.isLT
def le? : Value → Value → Option Bool := ordered? Ordering.isLE
def gt? : Value → Value → Option Bool := ordered? Ordering.isGT
def ge? : Value → Value → Option Bool := ordered? Ordering.isGE

/-- The first value unless it lies beyond a bound. -/
def clamp? (x low high : Value) : Option Value := do
  let raised := if ← low.gt? x then low else x
  return if ← high.lt? raised then high else raised

/-- What going through a value yields: items, characters or names. -/
def elements? : Value → Option (List Value)
  | .list xs => some xs
  | .text s => some (s.toList.map fun c => .text (String.singleton c))
  | .object fs => some (fs.map fun f => .text f.1)
  | _ => none

end Value
end ShapePuzzle
