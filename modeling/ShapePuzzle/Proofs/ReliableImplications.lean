import ShapePuzzle.Proofs.EdgeRegions
import ShapePuzzle.Proofs.HingingConditions
import ShapePuzzle.Proofs.ReliableTemplates

/-!
# Kinds of reliable implications

An implication with one action is reliable if the declared violation is its opposite, or if the action asks for a
region that not all cells are in and the antecedent can be broken.
-/
namespace ShapePuzzle
variable {details : Details} {size : Int} {cell : Cell} {A c : Condition} {p : Property} {k : String} {w : Value}

namespace CellAction

theorem holds_set (hk : details.lookup k = some w) :
    (set p (.placeholder k)).holds details size cell = .ok ((cell.get p).strictlyEquals w) := by
  have hresolve : (Ref.placeholder k).resolve (cell.context details size) = .ok w := Details.find_eq_ok.2 hk
  simp only [holds, hresolve]
  rfl

theorem holds_setDistinct (hk : details.lookup k = some w) :
    (setDistinct p k).holds details size cell = .ok (!(cell.get p).strictlyEquals w) := by
  simp only [holds, Details.find_eq_ok.2 hk]
  rfl

theorem sure_set (p : Property) (v : Ref) : (set p v).Sure details size := by
  intro cell cell' luck luck' status hcell h
  obtain ⟨w, -, hstatus, -⟩ := apply_set_eq_ok.1 h
  exact hstatus.symm

theorem sure_setDistinct (p : Property) (k : String) : (setDistinct p k).Sure details size := by
  intro cell cell' luck luck' status hcell h
  obtain ⟨w, v, -, -, -, hstatus, -⟩ := apply_setDistinct_spec h
  exact hstatus

theorem sure_ensure (hc : c.HingesOn details size p) : (ensure c).Sure details size := by
  intro cell cell' luck luck' status hcell h
  obtain ⟨b, hb, rfl⟩ := apply_ensure_eq_ok.1 h
  rw [hc.takes hcell hb]
  rfl

theorem sure_break (hc : c.HingesOn details size p) : (CellAction.break c).Sure details size :=
  fun {_ _ _ _ _} hcell h => sure_ensure hc.not hcell h

end CellAction

/-- Forcing the condition onto any cell of the place says that it came to hold. -/
def Condition.TakesAt (details : Details) (size : Int) (c : Condition) (place : Position) : Prop :=
  ∀ cell : Cell, cell.Ordinary → cell.position = place → c.Takes details size cell

namespace Implication
variable {a v : CellAction} {place : Position}

/-- An implication that asks one thing and declares the opposite as its violation. -/
structure Opposed (details : Details) (size : Int) (A : Condition) (a v : CellAction) : Prop where
  antecedent : A.Tame details size
  action : a.Tame details size
  sure : a.Sure details size
  regular : a.Regular details
  violation : v.Tame details size
  sureViolation : v.Sure details size
  regularViolation : v.Regular details
  apart : ∀ q, v.writes q = true → A.reads q = false
  opposite : ∀ cell : Cell, v.holds details size cell = .ok true → a.holds details size cell = .ok false

private theorem holdsOn_single {r : Implication} (hactions : r.actions = [a])
    (hantecedent : Condition.evaluate? (cell.context details size) r.antecedent = .ok true)
    (hfalse : a.holds details size cell = .ok false) : r.holdsOn details size cell = .ok false := by
  simp only [holdsOn, hantecedent, hactions, List.allM, hfalse]
  rfl

theorem Opposed.reliable (h : Opposed details size A a v) (hon : place.On size)
    (htakes : A.TakesAt details size place) :
    (Rule.implication ⟨some A, [a], none, some v⟩).Reliable details size where
  tame := {
    antecedent := fun c hc => by cases hc; exact h.antecedent
    actions := List.forall_mem_singleton.2 h.action
    violation := fun w hw => by cases hw; exact h.violation
    relief := .inl fun b hb => by
      obtain rfl := List.mem_singleton.1 hb
      exact h.sure }
  orderly := ⟨List.pairwise_singleton _ _, List.forall_mem_singleton.2 h.regular⟩
  refutable := by
    refine ⟨place, hon.1, hon.2, fun cell hcell hpos => ⟨fun c hc => ?_, fun c hkept he => .inr ?_⟩⟩
    · cases hc
      exact htakes cell hcell hpos
    · refine ⟨v, rfl, fun {luck luck' status cell'} hrun => holdsOn_single rfl ?_ (h.opposite cell' ?_)⟩
      · have hagree : c.AgreeOn (Condition.reads? (some A) ·) cell' := by
          refine (CellAction.apply_frame hrun).mono fun q (hq : A.reads q = true) => Bool.eq_false_iff.2 fun hw => ?_
          rw [h.apart q hw] at hq
          cases hq
        rw [← Condition.evaluate?_context_congr hagree]
        exact he
      · rw [CellAction.holds_of_apply h.regularViolation hkept.1.regular hrun, h.sureViolation hkept.1 hrun]
        rfl

theorem opposed_set (hA : A.Tame details size) (hk : details.lookup k = some w) (hw : w ∈ p.domain)
    (hfree : A.reads p = false) : Opposed details size A (.set p (.placeholder k)) (.setDistinct p k) where
  antecedent := hA
  action := fun _ _ => ⟨w, hw, Condition.resolve_detail hk⟩
  sure := CellAction.sure_set p _
  regular := by
    intro v hv
    rw [hk] at hv
    cases hv
    exact (Property.strictlyEquals_iff_of_mem_domain hw hw).2 rfl
  violation := ⟨w, hw, hk⟩
  sureViolation := CellAction.sure_setDistinct p k
  regularViolation := trivial
  apart := by
    intro q hq
    obtain rfl : p = q := by simpa [CellAction.writes] using hq
    exact hfree
  opposite := by
    intro cell hholds
    rw [CellAction.holds_setDistinct hk] at hholds
    rw [CellAction.holds_set hk]
    simpa using hholds

theorem opposed_ensure (hA : A.Tame details size) (hc : c.HingesOn details size p) (hfree : A.reads p = false) :
    Opposed details size A (.ensure c) (.break c) where
  antecedent := hA
  action := hc.tame
  sure := CellAction.sure_ensure hc
  regular := trivial
  violation := hc.tame
  sureViolation := CellAction.sure_break hc
  regularViolation := trivial
  apart := by
    intro q hq
    rw [hc.reads q hq]
    exact hfree
  opposite := by
    intro cell hholds
    simp only [CellAction.holds, except_bind_eq_ok, except_pure_eq_ok] at hholds ⊢
    obtain ⟨b, hb, hno⟩ := hholds
    rw [hb]
    simpa using hno

/-- An implication that asks for a region is reliable if its antecedent can be broken and some place lies outside. -/
theorem reliable_region {d s : Ref} {b : CellAction} {place : Position} (hA : A.Tame details size)
    (hregion : ∀ cell : Cell, ∃ b, CellAction.inRegion d s cell details size = .ok b)
    (hbreak : Breakable details size (some A) (some b)) (hon : place.On size)
    (houtside : ∀ cell : Cell, cell.position = place → CellAction.inRegion d s cell details size = .ok false)
    (htakes : A.TakesAt details size place) :
    (Rule.implication ⟨some A, [.requireRegion d s], some b, none⟩).Reliable details size where
  tame := {
    antecedent := fun c hc => by cases hc; exact hA
    actions := List.forall_mem_singleton.2 hregion
    violation := nofun
    relief := .inr hbreak }
  orderly := ⟨List.pairwise_singleton _ _, List.forall_mem_singleton.2 trivial⟩
  refutable := by
    refine ⟨place, hon.1, hon.2, fun cell hcell hpos => ⟨fun c hc => ?_, fun c hkept he => .inl ?_⟩⟩
    · cases hc
      exact htakes cell hcell hpos
    · exact holdsOn_single rfl he (houtside c (hkept.2.trans hpos))

end Implication

section Breaks
open Shipped

/-- Giving a property another value than a detail breaks what fails on such cells. -/
private theorem breakable_setDistinct (hk : details.lookup k = some w) (hw : w ∈ p.domain)
    (hA : ∀ cell : Cell, (isDetail p k).evaluate (cell.context details size) = .ok false →
      A.evaluate (cell.context details size) = .ok false) :
    Breakable details size (some A) (some (.setDistinct p k)) := by
  refine ⟨_, rfl, ⟨w, hw, hk⟩, fun {cell cell' luck luck' status} hcell hrun => hA cell' ?_⟩
  have hholds := CellAction.holds_of_apply (a := .setDistinct p k) trivial hcell.regular hrun
  rw [CellAction.sure_setDistinct p k hcell hrun, CellAction.holds_setDistinct hk] at hholds
  rw [Condition.evaluate_isDetail hk]
  simpa using hholds

theorem breakable_isDetail (hk : details.lookup k = some w) (hw : w ∈ p.domain) :
    Breakable details size (some (isDetail p k)) (some (.setDistinct p k)) :=
  breakable_setDistinct hk hw fun _ h => h

theorem breakable_isDetail_and (cs : List Condition) (hk : details.lookup k = some w) (hw : w ∈ p.domain) :
    Breakable details size (some (.all (isDetail p k :: cs))) (some (.setDistinct p k)) :=
  breakable_setDistinct hk hw fun _ h => Condition.evaluateAll_cons h

/-- Giving a property the value that it must not have breaks as well. -/
theorem breakable_set (hc : c.Tame details size) (hk : details.lookup k = some w) (hw : w ∈ p.domain) :
    Breakable details size (some (.all [c, .not (isDetail p k)])) (some (.set p (detail k))) := by
  have htame : (CellAction.set p (detail k)).Tame details size := fun _ _ => ⟨w, hw, Condition.resolve_detail hk⟩
  refine ⟨_, rfl, htame, fun {cell cell' luck luck' status} hcell hrun => ?_⟩
  have hkept := ((CellAction.quiet_apply htame hcell).of_run hrun).2
  obtain ⟨v, hv, -, hst⟩ := CellAction.apply_set_eq_ok.1 hrun
  cases (Condition.resolve_detail hk).symm.trans hv
  cases hst
  obtain ⟨b, hb⟩ := Condition.Tame.settles c hc _ hkept.1
  have hnot : (Condition.not (isDetail p k)).evaluate ((cell.set p w).context details size) = .ok false := by
    have hself := (Property.strictlyEquals_iff_of_mem_domain hw hw).2 rfl
    simp only [Condition.evaluate_not, Condition.evaluate_isDetail hk, Cell.get_set_self, hself]
    rfl
  refine (Condition.evaluateAll_cons hb).trans ?_
  cases b with
  | false => rfl
  | true => exact Condition.evaluateAll_cons hnot

end Breaks

theorem inRegion_detail {e : Edge} {depth : Int} {d s : String} (hd : details.lookup d = some (.text e.name))
    (hs : details.lookup s = some (.int depth)) :
    CellAction.inRegion (.placeholder d) (.placeholder s) cell details size =
      .ok (e.covers size depth cell.position) := by
  have hdirection : (Ref.placeholder d).resolve (cell.context details size) = .ok (.text e.name) :=
    Condition.resolve_detail hd
  have hdepth : (Ref.placeholder s).resolve (cell.context details size) = .ok (.int depth) :=
    Condition.resolve_detail hs
  simp only [CellAction.inRegion, hdirection, hdepth]
  exact e.isInRegion_eq cell.position depth size

end ShapePuzzle
