import ShapePuzzle.Condition.Forcing
import ShapePuzzle.Proofs.FaultSets
import ShapePuzzle.Proofs.WrittenValues

/-!
# Faults of references

A reference may name a detail that is not there, or a property of a cell where none is looked at. No other part of
a condition has such a fault, so a condition has one only if a reference in it has.
-/
namespace ShapePuzzle

/-- Something that a reference looks for is not there. -/
def Fault.OfReference : Fault → Prop
  | unresolved _ | noCell _ | noNeighbor _ => True
  | _ => False

/-- What filling a value into a text may stop with. -/
def Fault.OfFilling : Fault → Prop
  | kindMismatch | numberTooLarge | badPercent _ | noSuchField | outOfMemory => True
  | e => e.OfWriting

/-- What drawing, comparing and changing values may stop with once they are found. -/
def Fault.OfOperation : Fault → Prop
  | emptyChoice | cellCount _ _ _ | unknownDirection _ | incomparable _ _ _ | cannotEvaluate _
  | unsupportedComparison _ | boundNotInteger _ _ | noNeighborAction | notText | endless => True
  | e => e.OfFilling

theorem Fault.OfWriting.ofFilling {e : Fault} (h : e.OfWriting) : e.OfFilling := by
  cases e with
  | tooManyDigits | nestedTooDeep => trivial
  | _ => cases h

theorem Fault.OfFilling.ofOperation {e : Fault} (h : e.OfFilling) : e.OfOperation := by
  cases e with
  | kindMismatch | numberTooLarge | badPercent | noSuchField | outOfMemory | tooManyDigits | nestedTooDeep => trivial
  | _ => cases h

namespace Value

theorem stopsWith_quoted (v : Value) : StopsWith Fault.OfWriting v.quoted := fun _ => ofWriting_of_quoted

theorem stopsWith_bare (v : Value) : StopsWith Fault.OfWriting v.bare := by
  cases v with
  | text s => exact .ok s
  | _ => exact stopsWith_quoted _

end Value

namespace Percent
open StopsWith

theorem stopsWith_take (s : Supply) : StopsWith Fault.OfFilling s.take := by
  unfold Supply.take
  split
  · exact error trivial
  · exact ok _

theorem stopsWith_named (s : Supply) (name : String) : StopsWith Fault.OfFilling (s.named name) := by
  unfold Supply.named
  split
  · split
    · exact ok _
    · exact error trivial
  · exact error trivial

theorem stopsWith_measure (s : Supply) (largest : Nat) (what : String) (cs : List Char) :
    StopsWith Fault.OfFilling (measure s largest what cs) := by
  unfold measure
  split
  · refine bind (stopsWith_take s) fun p _ => ?_
    dsimp only
    split
    · split
      · exact pure _
      · exact throw trivial
    · exact pure _
    · exact throw trivial
  · dsimp only
    split
    · exact ok _
    · exact error trivial

theorem stopsWith_precision (s : Supply) (cs : List Char) : StopsWith Fault.OfFilling (precision s cs) := by
  unfold precision
  split
  · exact stopsWith_measure _ _ _ _
  · exact ok _

theorem stopsWith_asDigits (precision : Nat) (writable : Bool) :
    StopsWith Fault.OfFilling (asDigits precision writable) := by
  unfold asDigits
  repeat' split
  all_goals first | exact ok _ | exact error trivial

theorem stopsWith_convert (c : Char) (place precision : Nat) (v : Value) :
    StopsWith Fault.OfFilling (convert c place precision v) := by
  unfold convert asWhole asInteger asDecimal asCharacter
  repeat' split
  all_goals first
    | exact ok _
    | exact error trivial
    | exact stopsWith_asDigits _ _
    | exact (v.stopsWith_bare.mono fun _ => Fault.OfWriting.ofFilling).discard

theorem stopsWith_key (s : Supply) (cs : List Char) : StopsWith Fault.OfFilling (key s cs) := by
  unfold key
  split
  · split
    · exact error trivial
    · split
      · exact bind (stopsWith_named _ _) fun _ _ => pure _
      · exact error trivial
  · exact ok _

theorem stopsWith_conversion (length width precision : Nat) (s : Supply) (cs : List Char) :
    StopsWith Fault.OfFilling (conversion length width precision s cs) := by
  unfold conversion
  split
  · exact error trivial
  · refine bind (stopsWith_take _) fun t _ => bind (stopsWith_convert _ _ _ _) fun _ _ => ?_
    split
    · exact throw trivial
    · exact pure _

theorem stopsWith_directive (length : Nat) (s : Supply) (cs : List Char) :
    StopsWith Fault.OfFilling (directive length s cs) :=
  bind (stopsWith_key _ _) fun _ _ => bind (stopsWith_measure _ _ _ _) fun _ _ =>
    bind (stopsWith_precision _ _) fun _ _ => stopsWith_conversion _ _ _ _ _

theorem stopsWith_run (length fuel : Nat) (s : Supply) (cs : List Char) :
    StopsWith Fault.OfFilling (run length fuel s cs) := by
  fun_induction run length fuel s cs with
  | case1 => exact ok _
  | case2 => exact ok _
  | case3 fuel s rest ih => exact ih
  | case4 fuel s rest _ ih => exact bind (stopsWith_directive _ _ _) fun p _ => ih p.1 p.2
  | case5 fuel s c rest _ _ ih => exact ih

theorem stopsWith_fill (text : String) (v : Value) : StopsWith Fault.OfFilling (fill text v) := by
  refine bind (stopsWith_run _ _ _ _) fun s _ => ?_
  unfold Supply.finish
  split
  · exact ok _
  · exact error trivial

end Percent

variable {E : Fault → Prop}

section Operations
variable (hE : ∀ e, e.OfOperation → E e)
include hE

/-- Whether it tells of a value or of what keeps the value from being written, a fault is among the given ones. -/
theorem Fault.telling_mem {fault : String → Fault} {x : Except Fault String} (hfault : ∀ s, E (fault s))
    (hx : StopsWith Fault.OfWriting x) : E (.telling fault x) := by
  cases x with
  | ok s => exact hfault s
  | error e => exact hE e (hx rfl).ofFilling.ofOperation

theorem Fault.unordered_mem (comparison : String) (left right : Value) : E (.unordered comparison left right) :=
  telling_mem hE (fun _ => telling_mem hE (fun _ => hE _ trivial) right.stopsWith_quoted) left.stopsWith_quoted

theorem Grid.wrongCount_mem (size : Int) (count : Nat) : E (wrongCount size count) :=
  Fault.telling_mem hE (fun _ => Fault.telling_mem hE (fun _ => hE _ trivial) (Value.stopsWith_quoted _))
    (Value.stopsWith_quoted _)

theorem Fault.ofLeaf_mem (operator : String) (refs : List Ref) : E (.ofLeaf operator refs) := by
  have hwritten : ∀ r : Ref, StopsWith Fault.OfWriting r.written := by
    intro r
    cases r with
    | constant v => exact v.stopsWith_quoted.discard
    | number n => exact (Value.stopsWith_quoted _).discard
    | _ => exact .ok _
  unfold ofLeaf
  split
  · exact hE _ trivial
  · rename_i e he
    exact hE e (StopsWith.forM (fun r _ => hwritten r) he).ofFilling.ofOperation

theorem Value.stopsWith_divides {blame : Fault} (hblame : E blame) (v factor : Value) :
    StopsWith E (v.divides blame factor) := by
  unfold divides
  split
  · rename_i s
    split
    · exact .ok _
    · exact .error hblame
    · rename_i e _ he
      exact .error (hE e (Percent.stopsWith_fill s factor he).ofOperation)
  · split
    · exact .ok _
    · exact .ok _
    · exact .error hblame
    · exact .error (hE _ trivial)
  · exact .error hblame

theorem Value.stopsWith_isPrime (v : Value) : StopsWith E v.isPrime := by
  unfold isPrime
  repeat' split
  all_goals first | exact .ok _ | exact .error (hE _ trivial)

theorem Comparison.stopsWith_test (c : Comparison) (left right : Value) : StopsWith E (c.test left right) := by
  unfold test
  split
  · exact .ok _
  · exact .error (Fault.unordered_mem hE _ _ _)

theorem Comparison.stopsWith_ofValue (v : Value) : StopsWith E (ofValue v) := by
  unfold ofValue
  repeat' split
  all_goals first
    | exact .ok _
    | exact .error (hE _ trivial)
    | exact .error (Fault.telling_mem hE (fun _ => hE _ trivial) v.stopsWith_quoted)

theorem Direction.stopsWith_ofValue (v : Value) : StopsWith E (ofValue v) := by
  unfold ofValue
  repeat' split
  all_goals first
    | exact .ok _
    | exact .error (hE _ trivial)
    | exact .error (Fault.telling_mem hE (fun _ => hE _ trivial) (Value.stopsWith_quoted _))

theorem stopsWith_isInRegion (p : Position) (edge depth : Value) (size : Int) :
    StopsWith E (isInRegion p edge depth size) := by
  have hdemand : ∀ b, StopsWith E (Edge.demand b) := by
    intro b
    cases b with
    | none => exact .error (hE _ trivial)
    | some b => exact .ok b
  have hend : ∀ place, StopsWith E (Edge.nearEnd place depth size) := by
    intro place
    unfold Edge.nearEnd
    repeat' split
    all_goals first | exact hdemand _ | exact .error (hE _ trivial)
  refine .bind ?_ fun e _ => ?_
  · unfold Edge.ofValue
    split
    · exact .ok _
    · exact .error (Fault.telling_mem hE (fun _ => hE _ trivial) edge.stopsWith_quoted)
  · cases e with
    | left => exact hdemand _
    | right => exact hend _
    | top => exact hdemand _
    | bottom => exact hend _

end Operations

namespace Condition
variable {P : Ref → Prop} {ctx : Context}

mutual

/-- All references in the condition have a property. -/
def Every (P : Ref → Prop) : Condition → Prop
  | .all cs | .any cs => EveryIn P cs
  | .not c => c.Every P
  | .compare _ l r => P l ∧ P r
  | .between v l h => P v ∧ P l ∧ P h
  | .parity v p => P v ∧ P p
  | .prime v => P v
  | .multipleOf v f => P v ∧ P f
  | .inRegion d s => P d ∧ P s

def EveryIn (P : Ref → Prop) : List Condition → Prop
  | [] => True
  | c :: cs => c.Every P ∧ EveryIn P cs

end

private theorem stopsWith_inOrder {blame : Fault} (hblame : E blame) (a b : Value) :
    StopsWith E (inOrder blame a b) := by
  unfold inOrder
  split
  · exact .ok _
  · exact .error hblame

mutual

/-- A condition has a fault of a reference only if a reference in it has. -/
theorem stopsWith_evaluate (hE : ∀ e, e.OfOperation → E e) (hP : ∀ r, P r → StopsWith E (r.resolve ctx)) :
    ∀ (c : Condition), c.Every P → StopsWith E (c.evaluate ctx)
  | .all cs, hcs => stopsWith_evaluateAll hE hP cs hcs
  | .any cs, hcs => stopsWith_evaluateAny hE hP cs hcs
  | .not c, hc => .bind (stopsWith_evaluate hE hP c hc) fun _ _ => .pure _
  | .compare op l r, h =>
    .bind (hP l h.1) fun _ _ => .bind (hP r h.2) fun _ _ => op.stopsWith_test hE _ _
  | .between v l h, hrefs => by
    have hblame := Fault.ofLeaf_mem hE "between" [v, l, h]
    refine .bind (hP v hrefs.1) fun _ _ => .bind (hP l hrefs.2.1) fun _ _ =>
      .bind (stopsWith_inOrder hblame _ _) fun b _ => ?_
    split
    · exact .bind (hP h hrefs.2.2) fun _ _ => stopsWith_inOrder hblame _ _
    · exact .pure _
  | .parity v p, h =>
    .bind (hP v h.1) fun _ _ => .bind (hP p h.2) fun _ _ =>
      .bind (Value.stopsWith_divides hE (Fault.ofLeaf_mem hE _ _) _ _) fun _ _ => .pure _
  | .prime v, h => by
    refine .bind (hP v h) fun w _ => ?_
    split
    · exact .error (Fault.ofLeaf_mem hE _ _)
    · exact Value.stopsWith_isPrime hE w
  | .multipleOf v f, h =>
    .bind (hP v h.1) fun _ _ => .bind (hP f h.2) fun _ _ => Value.stopsWith_divides hE (Fault.ofLeaf_mem hE _ _) _ _
  | .inRegion d s, h => by
    simp only [evaluate, evaluateRegion]
    split
    · exact .ok _
    · exact .bind (hP d h.1) fun _ _ => .bind (hP s h.2) fun _ _ => stopsWith_isInRegion hE _ _ _ _

theorem stopsWith_evaluateAll (hE : ∀ e, e.OfOperation → E e) (hP : ∀ r, P r → StopsWith E (r.resolve ctx)) :
    ∀ (cs : List Condition), EveryIn P cs → StopsWith E (evaluateAll ctx cs)
  | [], _ => .ok _
  | c :: cs, h => by
    refine .bind (stopsWith_evaluate hE hP c h.1) fun b _ => ?_
    cases b with
    | true => exact stopsWith_evaluateAll hE hP cs h.2
    | false => exact .pure _

theorem stopsWith_evaluateAny (hE : ∀ e, e.OfOperation → E e) (hP : ∀ r, P r → StopsWith E (r.resolve ctx)) :
    ∀ (cs : List Condition), EveryIn P cs → StopsWith E (evaluateAny ctx cs)
  | [], _ => .ok _
  | c :: cs, h => by
    refine .bind (stopsWith_evaluate hE hP c h.1) fun b _ => ?_
    cases b with
    | true => exact .pure _
    | false => exact stopsWith_evaluateAny hE hP cs h.2

end

end Condition
end ShapePuzzle
