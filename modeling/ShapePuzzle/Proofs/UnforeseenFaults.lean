import ShapePuzzle.Proofs.BinaryRange
import ShapePuzzle.Proofs.ReferenceFaults
import ShapePuzzle.Schema.Condition
import ShapePuzzle.Session.Service

/-!
# Faults that escape an evaluation

Requests have an answer for the faults of a template. Evaluating a condition has others as well: a leaf tells of a
mismatch of kinds and of a division by nought, but not of the other ways in which arithmetic stops, and a region does
not tell of anything. What is told holds values as they are written, so an integer that is too long to be written
makes a fault of its own out of the fault that was to be told.
-/
namespace ShapePuzzle

namespace Fault

theorem OfFilling.family {e : Fault} (h : e.OfFilling) : e.family = .unforeseen := by
  cases e with
  | kindMismatch | numberTooLarge | badPercent | noSuchField | outOfMemory | tooManyDigits | nestedTooDeep => rfl
  | _ => cases h

/-- Telling of a value works unless an integer in it is too long. -/
theorem telling_quoted {v : Value} (fault : String → Fault) (hv : v.nesting ≤ deepestNesting) :
    (v.isShort = true ∧ ∃ s, telling fault v.quoted = fault s) ∨
      (v.isShort = false ∧ telling fault v.quoted = .tooManyDigits) := by
  rcases Value.quoted_cases hv with ⟨hshort, s, hs⟩ | ⟨hlong, hs⟩
  · exact .inl ⟨hshort, s, by rw [hs]; rfl⟩
  · exact .inr ⟨hlong, by rw [hs]; rfl⟩

/-- So does telling of two values without an order. -/
theorem unordered_cases (comparison : String) {left right : Value} (hleft : left.nesting ≤ deepestNesting)
    (hright : right.nesting ≤ deepestNesting) :
    ((left.isShort = true ∧ right.isShort = true) ∧ (unordered comparison left right).family = .template) ∨
      ((left.isShort = false ∨ right.isShort = false) ∧ unordered comparison left right = .tooManyDigits) := by
  rcases telling_quoted (fun l => telling (incomparable comparison l) right.quoted) hleft with
    ⟨hshort, l, hl⟩ | ⟨hlong, hl⟩
  · rcases telling_quoted (incomparable comparison l) hright with ⟨hshort', r, hr⟩ | ⟨hlong, hr⟩
    · exact .inl ⟨⟨hshort, hshort'⟩, by rw [unordered, hl, hr]; rfl⟩
    · exact .inr ⟨.inr hlong, hl.trans hr⟩
  · exact .inr ⟨.inl hlong, hl⟩

end Fault

namespace Ref
variable {ctx : Context} {r : Ref} {refs : List Ref}

theorem family_of_resolve {e : Fault} (h : r.resolve ctx = .error e) : e.family = .template := by
  cases r with
  | placeholder k | placeholderName k =>
    simp only [resolve, Details.find] at h
    split at h
    · cases h
    · cases h
      rfl
  | cellProperty p | neighborProperty p =>
    simp only [resolve] at h
    split at h
    · cases h
    · cases h
      rfl
  | constant v | number n => cases h

/-- What comes after a reference has the fault if the reference cannot have it. -/
theorem exists_of_bind_resolve {α : Type} {f : Value → Except Fault α} {e : Fault}
    (h : (r.resolve ctx >>= f) = .error e) (he : e.family ≠ .template) :
    ∃ v, r.resolve ctx = .ok v ∧ f v = .error e := by
  rcases except_bind_eq_error.1 h with h | hafter
  · exact absurd (family_of_resolve h) he
  · exact hafter

/-- How many collections stand one inside another in what a reference stands for. -/
def nesting (ctx : Context) (r : Ref) : Nat :=
  match r.resolve ctx with
  | .ok v => v.nesting
  | .error _ => 0

/-- What a reference stands for is nested no deeper than a document can be. -/
def Shallow (ctx : Context) (r : Ref) : Prop := ∀ v, r.resolve ctx = .ok v → v.nesting ≤ deepestNesting

theorem shallow_of_nesting_le {n : Nat} (hn : n ≤ deepestNesting) (h : r.nesting ctx ≤ n) : r.Shallow ctx := by
  intro v hv
  rw [nesting, hv] at h
  exact Nat.le_trans h hn

/-- The reference says a value with an integer that is too long to be written. -/
def IsLong : Ref → Prop
  | constant v => v.isShort = false
  | number n => n.isShort = false
  | _ => False

theorem written_cases (h : r.Shallow ctx) :
    (¬ r.IsLong ∧ r.written = .ok ()) ∨ (r.IsLong ∧ r.written = .error .tooManyDigits) := by
  cases r with
  | constant v =>
    rcases Value.quoted_cases (h v rfl) with ⟨hshort, s, hs⟩ | ⟨hlong, hs⟩
    · exact .inl ⟨by simp [IsLong, hshort], by rw [written, hs]; rfl⟩
    · exact .inr ⟨hlong, by rw [written, hs]; rfl⟩
  | number n =>
    rcases Value.quoted_cases (h (.number n) rfl) with ⟨hshort, s, hs⟩ | ⟨hlong, hs⟩
    · have hnot : ¬ (Ref.number n).IsLong := by
        intro hlong
        cases hshort.symm.trans hlong
      exact .inl ⟨hnot, by rw [written, hs]; rfl⟩
    · exact .inr ⟨hlong, by rw [written, hs]; rfl⟩
  | _ => exact .inl ⟨id, rfl⟩

theorem forM_written_cases (h : ∀ r ∈ refs, r.Shallow ctx) :
    ((¬ ∃ r ∈ refs, r.IsLong) ∧ refs.forM written = .ok ()) ∨
      ((∃ r ∈ refs, r.IsLong) ∧ refs.forM written = .error .tooManyDigits) := by
  induction refs with
  | nil => exact .inl ⟨by simp, rfl⟩
  | cons r rest ih =>
    obtain ⟨hr, hrest⟩ := List.forall_mem_cons.1 h
    have hcons : (r :: rest).forM written = (r.written >>= fun _ => rest.forM written) := rfl
    rcases written_cases hr with ⟨hlong, hwritten⟩ | ⟨hlong, hwritten⟩
    · rcases ih hrest with ⟨hnone, hall⟩ | ⟨hsome, hall⟩
      · exact .inl ⟨by simpa [hlong] using hnone, by rw [hcons, hwritten]; exact hall⟩
      · exact .inr ⟨by simpa [hlong] using hsome, by rw [hcons, hwritten]; exact hall⟩
    · exact .inr ⟨⟨r, List.mem_cons_self, hlong⟩, by rw [hcons, hwritten]; rfl⟩

/-- The fault of a leaf is told unless a reference in it says an integer that is too long. -/
theorem ofLeaf_cases (operator : String) (h : ∀ r ∈ refs, r.Shallow ctx) :
    ((¬ ∃ r ∈ refs, r.IsLong) ∧ Fault.ofLeaf operator refs = .cannotEvaluate operator) ∨
      ((∃ r ∈ refs, r.IsLong) ∧ Fault.ofLeaf operator refs = .tooManyDigits) := by
  unfold Fault.ofLeaf
  rcases forM_written_cases h with ⟨hnone, hall⟩ | ⟨hsome, hall⟩
  · exact .inl ⟨hnone, by rw [hall]⟩
  · exact .inr ⟨hsome, by rw [hall]⟩

end Ref

namespace Value
variable {v factor : Value} {blame e : Fault}

/-- A value does not divide by another, and the leaf that tries tells of it. -/
inductive Baffles (v factor : Value) : Prop
  | filling {s : String} (hv : v = .text s) (h : Percent.fill s factor = .error .kindMismatch)
  | kinds (htext : ∀ s, v ≠ .text s) (h : v.number? = none ∨ factor.number? = none)
  | byZero {m n : Number} (hv : v.number? = some m) (hfactor : factor.number? = some n) (h : m.divide n = .byZero)

/-- Dividing a value stops with a fault that no leaf tells about. -/
inductive Eludes (v factor : Value) : Fault → Prop
  | filling {s : String} {e : Fault} (hv : v = .text s) (hfill : Percent.fill s factor = .error e)
      (he : e ≠ .kindMismatch) : Eludes v factor e
  | apart {m n : Number} (hv : v.number? = some m) (hfactor : factor.number? = some n) (h : m.Apart n) :
      Eludes v factor .numberTooLarge

theorem baffles_or_eludes (h : v.divides blame factor = .error e) :
    (v.Baffles factor ∧ e = blame) ∨ v.Eludes factor e := by
  unfold divides at h
  split at h
  · split at h
    · cases h
    · rename_i hfill
      cases h
      exact .inl ⟨.filling rfl hfill, rfl⟩
    · rename_i hother hfill
      cases h
      exact .inr (.filling rfl hfill hother)
  · rename_i m n _ hn hm
    split at h
    · cases h
    · cases h
    · rename_i hdivide
      cases h
      exact .inl ⟨.byZero hm hn hdivide, rfl⟩
    · rename_i hdivide
      cases h
      exact .inr (.apart hm hn (Number.divide_eq_tooLarge_iff.1 hdivide))
  · rename_i htext hnumbers
    cases h
    refine .inl ⟨.kinds htext ?_, rfl⟩
    by_contra! hboth
    obtain ⟨m, hm⟩ := Option.ne_none_iff_exists'.1 hboth.1
    obtain ⟨n, hn⟩ := Option.ne_none_iff_exists'.1 hboth.2
    exact hnumbers m n hm hn

theorem Baffles.divides (h : v.Baffles factor) (blame : Fault) : v.divides blame factor = .error blame := by
  cases h with
  | filling hv hfill =>
    subst hv
    simp only [Value.divides, hfill]
  | kinds htext hnumbers =>
    cases v with
    | text s => exact absurd rfl (htext s)
    | _ => rcases hnumbers with h | h <;> simp [Value.divides, h]
  | byZero hv hfactor hdivide =>
    cases v with
    | text s => cases hv
    | _ => simp only [Value.divides, hv, hfactor, hdivide]

theorem Eludes.divides (h : v.Eludes factor e) (blame : Fault) : v.divides blame factor = .error e := by
  cases h with
  | filling hv hfill he =>
    subst hv
    simp only [Value.divides, hfill]
  | apart hv hfactor h =>
    cases v with
    | text s => cases hv
    | _ => simp only [Value.divides, hv, hfactor, Number.divide_eq_tooLarge_iff.2 h]

theorem Eludes.ofFilling (h : v.Eludes factor e) : e.OfFilling := by
  cases h with
  | filling hv hfill he => exact Percent.stopsWith_fill _ _ hfill
  | apart => trivial

theorem isPrime_eq_error_iff : v.isPrime = .error e ↔ (v.number? = none ∧ e = .kindMismatch) ∨
    (v.number? = some (.float (.infinite false)) ∧ e = .endless) := by
  unfold isPrime
  cases v.number? with
  | none => simp [eq_comm]
  | some n =>
    cases n with
    | int n => simp [Number.isPrime?]
    | float x =>
      cases x with
      | infinite negative => cases negative <;> simp [Number.isPrime?, eq_comm]
      | _ => simp [Number.isPrime?]

end Value

namespace Edge

/-- Looking how deep a region reaches stops. -/
inductive Eludes (size : Int) (depth : Value) : Edge → Fault → Prop
  | kind {e : Edge} (h : depth.number? = none) : Eludes size depth e .kindMismatch
  | apart {e : Edge} {n : Number} (he : e = right ∨ e = bottom) (hdepth : depth.number? = some n)
      (h : (Number.int size).Apart n) : Eludes size depth e .numberTooLarge

theorem nearStart_eq_error_iff {place : Int} {depth : Value} {fault : Fault} :
    nearStart place depth = .error fault ↔ depth.number? = none ∧ fault = .kindMismatch := by
  unfold nearStart
  rw [Value.lt?, Value.ordered?]
  cases depth.number? <;> simp [demand, eq_comm]

theorem nearEnd_eq_error_iff {place size : Int} {depth : Value} {fault : Fault} :
    nearEnd place depth size = .error fault ↔ (depth.number? = none ∧ fault = .kindMismatch) ∨
      ∃ n, depth.number? = some n ∧ (Number.int size).Apart n ∧ fault = .numberTooLarge := by
  unfold nearEnd
  cases depth.number? with
  | none => simp [eq_comm]
  | some n =>
    simp only [← Number.sub?_eq_none_iff]
    cases hstart : (Number.int size).sub? n with
    | none => simp [hstart, eq_comm]
    | some start => simp [hstart, demand, Value.ge?, Value.ordered?, Value.number?]

theorem reaches_eq_error_iff {size : Int} {depth : Value} {p : Position} {e : Edge} {fault : Fault} :
    e.reaches p depth size = .error fault ↔ e.Eludes size depth fault := by
  constructor
  · intro h
    cases e with
    | left | top =>
      obtain ⟨hdepth, rfl⟩ := nearStart_eq_error_iff.1 h
      exact .kind hdepth
    | right | bottom =>
      rcases nearEnd_eq_error_iff.1 h with ⟨hdepth, rfl⟩ | ⟨n, hdepth, hapart, rfl⟩
      · exact .kind hdepth
      · exact .apart (by simp) hdepth hapart
  · rintro (hdepth | ⟨he, hdepth, hapart⟩)
    · cases e with
      | left | top => exact nearStart_eq_error_iff.2 ⟨hdepth, rfl⟩
      | right | bottom => exact nearEnd_eq_error_iff.2 (.inl ⟨hdepth, rfl⟩)
    · rcases he with rfl | rfl
      · exact nearEnd_eq_error_iff.2 (.inr ⟨_, hdepth, hapart, rfl⟩)
      · exact nearEnd_eq_error_iff.2 (.inr ⟨_, hdepth, hapart, rfl⟩)

/-- The value names none of the edges. -/
def Misses (v : Value) : Prop := ∀ e : Edge, v.same (.text e.name) = false

theorem ofValue_eq_error_iff {v : Value} {fault : Fault} :
    ofValue v = .error fault ↔ Misses v ∧ fault = .telling .unknownDirection v.quoted := by
  have hall : ∀ e : Edge, e ∈ all := by
    intro e
    cases e <;> decide
  unfold ofValue
  cases hfind : all.find? fun e => v.same (.text e.name) with
  | some e =>
    have hsame : v.same (.text e.name) = true := List.find?_some (p := fun e : Edge => v.same (.text e.name)) hfind
    simp only [reduceCtorEq, false_iff, not_and]
    intro hmisses
    rw [hmisses e] at hsame
    cases hsame
  | none =>
    have hmisses : Misses v := fun e => by simpa using List.find?_eq_none.1 hfind e (hall e)
    simp [hmisses, eq_comm]

theorem Eludes.ofFilling {size : Int} {depth : Value} {e : Edge} {fault : Fault} (h : e.Eludes size depth fault) :
    fault.OfFilling := by
  cases h <;> trivial

end Edge

namespace Condition
variable {ctx : Context} {c : Condition} {e : Fault}

/-- A leaf comes to values that it does not work with. It tells of them and of its references. -/
inductive Baffles (ctx : Context) : Condition → String → List Ref → Prop
  | low {value low high : Ref} {v l : Value} (hvalue : value.resolve ctx = .ok v) (hlow : low.resolve ctx = .ok l)
      (h : l.le? v = none) : Baffles ctx (.between value low high) "between" [value, low, high]
  | high {value low high : Ref} {v l u : Value} (hvalue : value.resolve ctx = .ok v) (hlow : low.resolve ctx = .ok l)
      (hholds : l.le? v = some true) (hhigh : high.resolve ctx = .ok u) (h : v.le? u = none) :
      Baffles ctx (.between value low high) "between" [value, low, high]
  | parity {value parity : Ref} {v p : Value} (hvalue : value.resolve ctx = .ok v)
      (hparity : parity.resolve ctx = .ok p) (h : v.Baffles .two) :
      Baffles ctx (.parity value parity) "parity" [value, parity]
  | prime {value : Ref} {v : Value} (hvalue : value.resolve ctx = .ok v) (h : v.number? = none) :
      Baffles ctx (.prime value) "prime" [value]
  | multipleOf {value factor : Ref} {v f : Value} (hvalue : value.resolve ctx = .ok v)
      (hfactor : factor.resolve ctx = .ok f) (h : v.Baffles f) :
      Baffles ctx (.multipleOf value factor) "multipleOf" [value, factor]

/-- Evaluating a condition stops with a fault that is not one of its template. A group comes to a condition only
if none before it has settled the verdict. -/
inductive Eludes (ctx : Context) : Condition → Fault → Prop
  | all {before : List Condition} {c : Condition} {after : List Condition} {e : Fault}
      (hbefore : ∀ b ∈ before, b.evaluate ctx = .ok true) (h : c.Eludes ctx e) :
      Eludes ctx (.all (before ++ c :: after)) e
  | any {before : List Condition} {c : Condition} {after : List Condition} {e : Fault}
      (hbefore : ∀ b ∈ before, b.evaluate ctx = .ok false) (h : c.Eludes ctx e) :
      Eludes ctx (.any (before ++ c :: after)) e
  | not {c : Condition} {e : Fault} (h : c.Eludes ctx e) : Eludes ctx (.not c) e
  | compare {op : Comparison} {left right : Ref} {l r : Value} (hleft : left.resolve ctx = .ok l)
      (hright : right.resolve ctx = .ok r) (hnone : op.test? l r = none)
      (hlong : l.isShort = false ∨ r.isShort = false) : Eludes ctx (.compare op left right) .tooManyDigits
  | leaf {c : Condition} {operator : String} {refs : List Ref} (h : c.Baffles ctx operator refs)
      (hlong : ∃ r ∈ refs, r.IsLong) : Eludes ctx c .tooManyDigits
  | parity {value parity : Ref} {v p : Value} {e : Fault} (hvalue : value.resolve ctx = .ok v)
      (hparity : parity.resolve ctx = .ok p) (h : v.Eludes .two e) : Eludes ctx (.parity value parity) e
  | prime {value : Ref} {v : Value} (hvalue : value.resolve ctx = .ok v)
      (h : v.number? = some (.float (.infinite false))) : Eludes ctx (.prime value) .endless
  | multipleOf {value factor : Ref} {v f : Value} {e : Fault} (hvalue : value.resolve ctx = .ok v)
      (hfactor : factor.resolve ctx = .ok f) (h : v.Eludes f e) : Eludes ctx (.multipleOf value factor) e
  | direction {direction size : Ref} {cell : Cell} {d depth : Value} (hcell : ctx.cell = some cell)
      (hdirection : direction.resolve ctx = .ok d) (hsize : size.resolve ctx = .ok depth) (hmisses : Edge.Misses d)
      (hlong : d.isShort = false) : Eludes ctx (.inRegion direction size) .tooManyDigits
  | inRegion {direction size : Ref} {cell : Cell} {d depth : Value} {edge : Edge} {e : Fault}
      (hcell : ctx.cell = some cell) (hdirection : direction.resolve ctx = .ok d) (hedge : Edge.ofValue d = .ok edge)
      (hsize : size.resolve ctx = .ok depth) (h : edge.Eludes ctx.size depth e) :
      Eludes ctx (.inRegion direction size) e

theorem evaluateAll_append {before cs : List Condition} (h : ∀ b ∈ before, b.evaluate ctx = .ok true) :
    evaluateAll ctx (before ++ cs) = evaluateAll ctx cs := by
  induction before with
  | nil => rfl
  | cons b rest ih =>
    obtain ⟨hb, hrest⟩ := List.forall_mem_cons.1 h
    simp only [List.cons_append, evaluateAll, hb]
    exact ih hrest

theorem evaluateAny_append {before cs : List Condition} (h : ∀ b ∈ before, b.evaluate ctx = .ok false) :
    evaluateAny ctx (before ++ cs) = evaluateAny ctx cs := by
  induction before with
  | nil => rfl
  | cons b rest ih =>
    obtain ⟨hb, hrest⟩ := List.forall_mem_cons.1 h
    simp only [List.cons_append, evaluateAny, hb]
    exact ih hrest

mutual

/-- How deep conditions stand inside one another, with what they come to at the bottom. -/
def nesting (ctx : Context) : Condition → Nat
  | .all cs | .any cs => nestingIn ctx cs + 1
  | .not c => c.nesting ctx + 1
  | .compare _ l r => max (l.nesting ctx) (r.nesting ctx)
  | .between v l h => max (v.nesting ctx) (max (l.nesting ctx) (h.nesting ctx))
  | .parity v p => max (v.nesting ctx) (p.nesting ctx)
  | .prime v => v.nesting ctx
  | .multipleOf v f => max (v.nesting ctx) (f.nesting ctx)
  | .inRegion d s => max (d.nesting ctx) (s.nesting ctx)

def nestingIn (ctx : Context) : List Condition → Nat
  | [] => 0
  | c :: cs => max (c.nesting ctx) (nestingIn ctx cs)

end

mutual

theorem every_shallow {n : Nat} (hn : n ≤ deepestNesting) :
    ∀ (c : Condition), c.nesting ctx ≤ n → c.Every (Ref.Shallow ctx)
  | .all cs, h | .any cs, h => everyIn_shallow hn cs (Nat.le_of_succ_le h)
  | .not c, h => every_shallow hn c (Nat.le_of_succ_le h)
  | .prime _, h => Ref.shallow_of_nesting_le hn h
  | .compare _ _ _, h | .parity _ _, h | .multipleOf _ _, h | .inRegion _ _, h =>
    ⟨Ref.shallow_of_nesting_le hn (Nat.max_le.1 h).1, Ref.shallow_of_nesting_le hn (Nat.max_le.1 h).2⟩
  | .between _ _ _, h => by
    obtain ⟨hvalue, hbounds⟩ := Nat.max_le.1 h
    obtain ⟨hlow, hhigh⟩ := Nat.max_le.1 hbounds
    exact ⟨Ref.shallow_of_nesting_le hn hvalue, Ref.shallow_of_nesting_le hn hlow, Ref.shallow_of_nesting_le hn hhigh⟩

theorem everyIn_shallow {n : Nat} (hn : n ≤ deepestNesting) :
    ∀ (cs : List Condition), nestingIn ctx cs ≤ n → EveryIn (Ref.Shallow ctx) cs
  | [], _ => trivial
  | c :: cs, h => ⟨every_shallow hn c (Nat.max_le.1 h).1, everyIn_shallow hn cs (Nat.max_le.1 h).2⟩

end

theorem EveryIn.of_mem {P : Ref → Prop} {cs : List Condition} (h : EveryIn P cs) : ∀ c ∈ cs, c.Every P := by
  induction cs with
  | nil => simp
  | cons c cs ih => exact List.forall_mem_cons.2 ⟨h.1, ih h.2⟩

theorem Baffles.evaluate {operator : String} {refs : List Ref} (h : c.Baffles ctx operator refs) :
    c.evaluate ctx = .error (.ofLeaf operator refs) := by
  cases h with
  | low hvalue hlow h =>
    simp only [Condition.evaluate, evaluateBetween, hvalue, hlow, inOrder, h, Bind.bind, Except.bind]
  | high hvalue hlow hholds hhigh h =>
    simp only [Condition.evaluate, evaluateBetween, hvalue, hlow, hhigh, inOrder, hholds, h, Bind.bind, Except.bind]
    rfl
  | parity hvalue hparity h =>
    simp only [Condition.evaluate, evaluateParity, hvalue, hparity, Bind.bind, Except.bind, h.divides]
  | prime hvalue h =>
    have hprime := Value.isPrime_eq_error_iff.2 (.inl ⟨h, rfl⟩)
    simp only [Condition.evaluate, evaluatePrime, hvalue, Bind.bind, Except.bind, hprime]
  | multipleOf hvalue hfactor h =>
    simp only [Condition.evaluate, evaluateMultiple, hvalue, hfactor]
    exact h.divides _

theorem Baffles.shallow {operator : String} {refs : List Ref} (h : c.Baffles ctx operator refs)
    (hc : c.Every (Ref.Shallow ctx)) : ∀ r ∈ refs, r.Shallow ctx := by
  cases h with
  | low | high | parity | multipleOf | prime => simpa [Every] using hc

theorem Eludes.evaluate (h : c.Eludes ctx e) (hc : c.Every (Ref.Shallow ctx)) : c.evaluate ctx = .error e := by
  induction h with
  | all hbefore _ ih =>
    simp only [Condition.evaluate, evaluateAll_append hbefore, evaluateAll, ih (EveryIn.of_mem hc _ (by simp))]
    rfl
  | any hbefore _ ih =>
    simp only [Condition.evaluate, evaluateAny_append hbefore, evaluateAny, ih (EveryIn.of_mem hc _ (by simp))]
    rfl
  | not _ ih =>
    simp only [Condition.evaluate, ih hc]
    rfl
  | @compare op _ _ _ _ hleft hright hnone hlong =>
    rcases Fault.unordered_cases op.name (hc.1 _ hleft) (hc.2 _ hright) with ⟨⟨hl, hr⟩, -⟩ | ⟨-, hdigits⟩
    · simp [hl, hr] at hlong
    · simp only [Condition.evaluate, hleft, hright, Bind.bind, Except.bind, Comparison.test, hnone, hdigits]
  | leaf h hlong =>
    rcases Ref.ofLeaf_cases _ (h.shallow hc) with ⟨hnone, -⟩ | ⟨-, hleaf⟩
    · exact absurd hlong hnone
    · rw [h.evaluate, hleaf]
  | parity hvalue hparity h =>
    simp only [Condition.evaluate, evaluateParity, hvalue, hparity, Bind.bind, Except.bind, h.divides]
  | prime hvalue h =>
    have hprime := Value.isPrime_eq_error_iff.2 (.inr ⟨h, rfl⟩)
    simp only [Condition.evaluate, evaluatePrime, hvalue, Bind.bind, Except.bind, hprime]
  | multipleOf hvalue hfactor h =>
    simp only [Condition.evaluate, evaluateMultiple, hvalue, hfactor]
    exact h.divides _
  | direction hcell hdirection hsize hmisses hlong =>
    rcases Fault.telling_quoted .unknownDirection (hc.1 _ hdirection) with ⟨hshort, -⟩ | ⟨-, htelling⟩
    · simp [hshort] at hlong
    · have hedge := Edge.ofValue_eq_error_iff.2 ⟨hmisses, rfl⟩
      simp only [Condition.evaluate, evaluateRegion, hcell, hdirection, hsize, isInRegion, hedge, htelling, Bind.bind,
        Except.bind]
  | inRegion hcell hdirection hedge hsize h =>
    simp only [Condition.evaluate, evaluateRegion, hcell, hdirection, hsize, isInRegion, hedge, Bind.bind, Except.bind]
    exact Edge.reaches_eq_error_iff.2 h

theorem Eludes.family (h : c.Eludes ctx e) : e.family = .unforeseen := by
  induction h with
  | all _ _ ih | any _ _ ih | not _ ih => exact ih
  | parity _ _ h | multipleOf _ _ h => exact h.ofFilling.family
  | inRegion _ _ _ _ h => exact h.ofFilling.family
  | compare | leaf | prime | direction => rfl

/-- A leaf with a fault that is none of its template says an integer that is too long. -/
theorem Baffles.eludes {operator : String} {refs : List Ref} (h : c.Baffles ctx operator refs)
    (hc : c.Every (Ref.Shallow ctx)) (he : (Fault.ofLeaf operator refs).family ≠ .template) :
    c.Eludes ctx (.ofLeaf operator refs) := by
  rcases Ref.ofLeaf_cases operator (h.shallow hc) with ⟨-, hleaf⟩ | ⟨hlong, hleaf⟩
  · rw [hleaf] at he
    exact absurd rfl he
  · rw [hleaf]
    exact .leaf h hlong

theorem inOrder_eq_error_iff {blame : Fault} {a b : Value} :
    inOrder blame a b = .error e ↔ a.le? b = none ∧ e = blame := by
  unfold inOrder
  cases a.le? b <;> simp [eq_comm]

theorem inOrder_eq_ok_iff {blame : Fault} {a b : Value} {r : Bool} : inOrder blame a b = .ok r ↔ a.le? b = some r := by
  unfold inOrder
  cases a.le? b <;> simp

mutual

theorem eludes_of_evaluate (he : e.family ≠ .template) : ∀ (c : Condition), c.Every (Ref.Shallow ctx) →
    c.evaluate ctx = .error e → c.Eludes ctx e
  | .all cs, hc, h => by
    obtain ⟨before, c, after, rfl, hbefore, hc⟩ := eludes_of_evaluateAll he cs hc h
    exact .all hbefore hc
  | .any cs, hc, h => by
    obtain ⟨before, c, after, rfl, hbefore, hc⟩ := eludes_of_evaluateAny he cs hc h
    exact .any hbefore hc
  | .not c, hc, h => by
    rcases except_bind_eq_error.1 h with h | ⟨_, _, h⟩
    · exact .not (eludes_of_evaluate he c hc h)
    · cases h
  | .compare op l r, hc, h => by
    obtain ⟨a, ha, h⟩ := Ref.exists_of_bind_resolve h he
    obtain ⟨b, hb, h⟩ := Ref.exists_of_bind_resolve h he
    unfold Comparison.test at h
    split at h
    · cases h
    rename_i hnone
    cases h
    rcases Fault.unordered_cases op.name (hc.1 a ha) (hc.2 b hb) with ⟨-, hfamily⟩ | ⟨hlong, hdigits⟩
    · exact absurd hfamily he
    · rw [hdigits]
      exact .compare ha hb hnone hlong
  | .between v l u, hc, h => by
    obtain ⟨a, ha, h⟩ := Ref.exists_of_bind_resolve h he
    obtain ⟨b, hb, h⟩ := Ref.exists_of_bind_resolve h he
    rcases except_bind_eq_error.1 h with h | ⟨below, hbelow, h⟩
    · obtain ⟨hnone, rfl⟩ := inOrder_eq_error_iff.1 h
      exact Baffles.eludes (.low ha hb hnone) hc he
    cases below with
    | false => cases h
    | true =>
      obtain ⟨d, hd, h⟩ := Ref.exists_of_bind_resolve h he
      obtain ⟨hnone, rfl⟩ := inOrder_eq_error_iff.1 h
      exact Baffles.eludes (.high ha hb (inOrder_eq_ok_iff.1 hbelow) hd hnone) hc he
  | .parity v p, hc, h => by
    obtain ⟨a, ha, h⟩ := Ref.exists_of_bind_resolve h he
    obtain ⟨b, hb, h⟩ := Ref.exists_of_bind_resolve h he
    rcases except_bind_eq_error.1 h with h | ⟨_, -, h⟩
    · rcases Value.baffles_or_eludes h with ⟨hbaffles, rfl⟩ | heludes
      · exact Baffles.eludes (.parity ha hb hbaffles) hc he
      · exact .parity ha hb heludes
    · cases h
  | .prime v, hc, h => by
    obtain ⟨a, ha, h⟩ := Ref.exists_of_bind_resolve h he
    split at h
    · rename_i hkind
      cases h
      rcases Value.isPrime_eq_error_iff.1 hkind with ⟨hnone, -⟩ | ⟨-, hendless⟩
      · exact Baffles.eludes (.prime ha hnone) hc he
      · cases hendless
    · rename_i hkind
      rcases Value.isPrime_eq_error_iff.1 h with ⟨-, rfl⟩ | ⟨hinfinite, rfl⟩
      · exact absurd h hkind
      · exact .prime ha hinfinite
  | .multipleOf v f, hc, h => by
    obtain ⟨a, ha, h⟩ := Ref.exists_of_bind_resolve h he
    obtain ⟨b, hb, h⟩ := Ref.exists_of_bind_resolve h he
    rcases Value.baffles_or_eludes h with ⟨hbaffles, rfl⟩ | heludes
    · exact Baffles.eludes (.multipleOf ha hb hbaffles) hc he
    · exact .multipleOf ha hb heludes
  | .inRegion d s, hc, h => by
    simp only [evaluate, evaluateRegion] at h
    split at h
    · cases h
    rename_i cell hcell
    obtain ⟨a, ha, h⟩ := Ref.exists_of_bind_resolve h he
    obtain ⟨depth, hdepth, h⟩ := Ref.exists_of_bind_resolve h he
    rcases except_bind_eq_error.1 h with h | ⟨edge, hedge, h⟩
    · obtain ⟨hmisses, rfl⟩ := Edge.ofValue_eq_error_iff.1 h
      rcases Fault.telling_quoted .unknownDirection (hc.1 a ha) with ⟨-, s, hs⟩ | ⟨hlong, hdigits⟩
      · rw [hs] at he
        exact absurd rfl he
      · rw [hdigits]
        exact .direction hcell ha hdepth hmisses hlong
    · exact .inRegion hcell ha hedge hdepth (Edge.reaches_eq_error_iff.1 h)

theorem eludes_of_evaluateAll (he : e.family ≠ .template) : ∀ (cs : List Condition), EveryIn (Ref.Shallow ctx) cs →
    evaluateAll ctx cs = .error e → ∃ before c after,
      cs = before ++ c :: after ∧ (∀ b ∈ before, b.evaluate ctx = .ok true) ∧ c.Eludes ctx e
  | [], _, h => nomatch h
  | c :: cs, hc, h => by
    rcases except_bind_eq_error.1 h with h | ⟨b, hb, h⟩
    · exact ⟨[], c, cs, rfl, by simp, eludes_of_evaluate he c hc.1 h⟩
    · cases b with
      | false => cases h
      | true =>
        obtain ⟨before, c', after, rfl, hbefore, hc'⟩ := eludes_of_evaluateAll he cs hc.2 h
        exact ⟨c :: before, c', after, rfl, List.forall_mem_cons.2 ⟨hb, hbefore⟩, hc'⟩

theorem eludes_of_evaluateAny (he : e.family ≠ .template) : ∀ (cs : List Condition), EveryIn (Ref.Shallow ctx) cs →
    evaluateAny ctx cs = .error e → ∃ before c after,
      cs = before ++ c :: after ∧ (∀ b ∈ before, b.evaluate ctx = .ok false) ∧ c.Eludes ctx e
  | [], _, h => nomatch h
  | c :: cs, hc, h => by
    rcases except_bind_eq_error.1 h with h | ⟨b, hb, h⟩
    · exact ⟨[], c, cs, rfl, by simp, eludes_of_evaluate he c hc.1 h⟩
    · cases b with
      | true => cases h
      | false =>
        obtain ⟨before, c', after, rfl, hbefore, hc'⟩ := eludes_of_evaluateAny he cs hc.2 h
        exact ⟨c :: before, c', after, rfl, List.forall_mem_cons.2 ⟨hb, hbefore⟩, hc'⟩

end

/-- Unless a part of it eludes, in a place that the evaluation comes to, a condition has a truth value or stops with a
fault of its template. With its values it is nested no deeper than the conditions of a document can be: beyond that
the stack may run out. -/
theorem stops_unforeseen_iff (c : Condition) (ctx : Context) (e : Fault) (hc : c.nesting ctx ≤ Nesting.mostPlaces) :
    (c.evaluate ctx = .error e ∧ e.family ≠ .template) ↔ c.Eludes ctx e := by
  have hshallow : c.Every (Ref.Shallow ctx) := every_shallow (by decide) c hc
  constructor
  · rintro ⟨h, he⟩
    exact eludes_of_evaluate he c hshallow h
  · intro h
    refine ⟨h.evaluate hshallow, ?_⟩
    rw [h.family]
    exact nofun

/-- Whether a word is greater than an integer with one digit more than can be written. -/
def overlongComparison : Condition :=
  .compare .greaterThan (.constant (.text "many")) (.constant (.int (10 ^ longestNumeral)))

theorem stops_unforeseen_overlong : overlongComparison.nesting ⟨[], none, none, 5⟩ ≤ Nesting.mostPlaces ∧
    overlongComparison.evaluate ⟨[], none, none, 5⟩ = .error .tooManyDigits ∧
    Fault.tooManyDigits.family ≠ .template := by
  have hlong : (Value.int (10 ^ longestNumeral)).isShort = false := by
    rw [← Bool.not_eq_true, Value.int, Value.isShort, Number.isShort_int_iff]
    simp
  exact ⟨Nat.zero_le _, (stops_unforeseen_iff overlongComparison _ _ (Nat.zero_le _)).2
    (.compare rfl rfl rfl (.inr hlong))⟩

/-- A region at the left edge that is as deep as a word. -/
def wordyRegion : Value := .object [("operator", .text "inRegion"),
  ("direction", .object [("kind", .text "constant"), ("value", .text "left")]),
  ("size", .object [("kind", .text "constant"), ("value", .text "two")])]

theorem stops_unforeseen_wordyRegion : ∃ c, read wordyRegion = .good c ∧
    c.evaluate ⟨[], some ⟨.text "circle", .text "#ff82a9", .int 1, ⟨0, 0⟩⟩, none, 5⟩ = .error .kindMismatch ∧
    Fault.kindMismatch.family ≠ .template :=
  ⟨.inRegion (.constant (.text "left")) (.constant (.text "two")), rfl, rfl, nofun⟩

end Condition
end ShapePuzzle
