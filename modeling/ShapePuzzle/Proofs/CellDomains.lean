import ShapePuzzle.Proofs.TameActions
import ShapePuzzle.Proofs.TurnInvariants

/-!
# Cells stay within the domains

Forcing, the actions of a cell and those of its neighbor keep a cell in its place with values of the domains, also
where they stop with a fault, as long as what they are told to write is of the domain of what is written.
-/
namespace ShapePuzzle
variable {details : Details} {size : Int} {cell c : Cell}

theorem Cell.Kept.refl (hc : c.Ordinary) : c.Kept c := ⟨hc, rfl⟩

theorem Cell.Kept.set {c' : Cell} (h : c.Kept c') {p : Property} {v : Value} (hv : v ∈ p.domain) :
    c.Kept (c'.set p v) :=
  h.trans (h.1.kept_set hv)

namespace Condition

theorem preserves_onCell (d : Condition) : Turn.Preserves c.Kept (d.onCell details size) fun _ => True :=
  .bind .subject fun _ _ => .computed _

theorem preserves_fill (d : Condition) (p : Property) :
    Turn.Preserves c.Kept (d.fill details size p) fun _ => True := by
  refine .bind .subject fun cell hcell => ?_
  refine .bind (Q := fun values => ∀ v ∈ values, v ∈ p.domain)
    (.ofExcept fun values hvalues v hv => ((mem_of_fitting hvalues v).1 hv).1) fun values hvalues => ?_
  split
  · exact .pure trivial
  · exact .bind (preserves_pick hvalues) fun v hv => .become (hcell.set hv)

theorem preserves_fillEach (d : Condition) (ps : List Property) :
    Turn.Preserves c.Kept (d.fillEach details size ps) fun _ => True := by
  induction ps with
  | nil => exact .pure trivial
  | cons p ps ih =>
    refine .bind (preserves_onCell d) fun _ _ => .ite (.pure trivial) ?_
    exact .bind (preserves_fill d p) fun _ _ => ih

theorem preserves_refill (d : Condition) (ps : List Property) :
    Turn.Preserves c.Kept (d.refill details size ps) fun _ => True := by
  induction ps with
  | nil => exact .pure trivial
  | cons p ps ih =>
    refine .bind (preserves_fill d p) fun _ _ => ?_
    exact .bind (preserves_onCell d) fun _ _ => .ite (.pure trivial) ih

theorem preserves_attempt (d : Condition) {work : Turn Cell Unit} (h : Turn.Preserves c.Kept work fun _ => True) :
    Turn.Preserves c.Kept (d.attempt details size work) fun _ => True := by
  refine .bind (preserves_onCell d) fun _ _ => .ite (.pure trivial) (.bind h fun _ _ => ?_)
  exact .bind (preserves_onCell d) fun _ _ => .ite (.pure trivial) (preserves_refill d _)

mutual

theorem preserves_force : ∀ d : Condition, Turn.Preserves c.Kept (d.force details size) fun _ => True
  | .all ds => preserves_attempt _ (preserves_forceAll ds)
  | .any ds => preserves_attempt _ (preserves_forceAny ds)
  | .not _ | .compare _ _ _ | .between _ _ _ | .parity _ _ | .prime _ | .multipleOf _ _ | .inRegion _ _ =>
    preserves_attempt _ (preserves_fillEach _ _)

theorem preserves_forceAll : ∀ ds : List Condition,
    Turn.Preserves c.Kept (forceAll details size ds) fun _ => True
  | [] => .pure trivial
  | d :: ds => .bind (preserves_force d) fun _ _ => preserves_forceAll ds

theorem preserves_forceAny : ∀ ds : List Condition,
    Turn.Preserves c.Kept (forceAny details size ds) fun _ => True
  | [] => .pure trivial
  | d :: ds => .bind (preserves_force d) fun _ _ => .ite (.pure trivial) (preserves_forceAny ds)

end

theorem preserves_force? (antecedent : Option Condition) :
    Turn.Preserves c.Kept (force? details size antecedent) fun _ => True := by
  cases antecedent with
  | none => exact .pure trivial
  | some d => exact preserves_force d

end Condition

/-- What the reference gives, if it gives anything, may stand in the property: it is of the domain, or it is what
some cell has there. -/
def Ref.Fits (details : Details) (p : Property) : Ref → Prop
  | .placeholder k | .placeholderName k => ∀ v, details.lookup k = some v → v ∈ p.domain
  | .constant v => v ∈ p.domain
  | .number n => .number n ∈ p.domain
  | .cellProperty q | .neighborProperty q => q = p

theorem Ref.Fits.resolve {r : Ref} {p : Property} {ctx : Context} {v : Value} (hr : r.Fits details p)
    (hctx : ctx.details = details) (hcell : ∀ d, ctx.cell = some d → d.Ordinary)
    (hneighbor : ∀ d, ctx.neighbor = some d → d.Ordinary) (h : r.resolve ctx = .ok v) : v ∈ p.domain := by
  subst hctx
  cases r with
  | placeholder k => exact hr v (Details.find_eq_ok.1 h)
  | placeholderName k => exact hr v (Details.find_eq_ok.1 h)
  | constant w =>
    cases h
    exact hr
  | number n =>
    cases h
    exact hr
  | cellProperty q =>
    obtain rfl : q = p := hr
    simp only [Ref.resolve] at h
    cases hc : ctx.cell with
    | none => simp [hc] at h
    | some d =>
      rw [hc] at h
      cases h
      exact hcell d hc q
  | neighborProperty q =>
    obtain rfl : q = p := hr
    simp only [Ref.resolve] at h
    cases hc : ctx.neighbor with
    | none => simp [hc] at h
    | some d =>
      rw [hc] at h
      cases h
      exact hneighbor d hc q

theorem Ref.Fits.resolve_context {r : Ref} {p : Property} {v : Value} (hr : r.Fits details p)
    (hcell : cell.Ordinary) (h : r.resolve (cell.context details size) = .ok v) : v ∈ p.domain :=
  hr.resolve rfl (by rintro _ ⟨⟩; exact hcell) (by simp [Cell.context]) h

namespace CellAction

/-- Carrying out the action writes no value from outside the domain. -/
def Fits (details : Details) : CellAction → Prop
  | set p v => v.Fits details p
  | _ => True

/-- Neither does making it fail, which writes the very value that a distinct one was asked for. -/
def FitsBothWays (details : Details) : CellAction → Prop
  | set p v => v.Fits details p
  | setDistinct p k => ∀ v, details.lookup k = some v → v ∈ p.domain
  | _ => True

theorem FitsBothWays.fits {a : CellAction} (h : a.FitsBothWays details) : a.Fits details := by
  cases a with
  | set p v => exact h
  | _ => trivial

variable {a : CellAction}

theorem preserves_apply (ha : a.Fits details) : Turn.Preserves c.Kept (a.apply details size) fun _ => True := by
  cases a with
  | set p v =>
    refine .bind .subject fun cell hcell => ?_
    refine .bind (.ofExcept fun w hw => Ref.Fits.resolve_context ha hcell.1 hw) fun w hw => ?_
    exact .bind (.become (hcell.set hw)) fun _ _ => .pure trivial
  | setDistinct p k =>
    refine .bind (.computed _) fun excluded _ => ?_
    refine .bind (preserves_pickDistinct p excluded) fun v hv => .bind .subject fun cell hcell => ?_
    exact .bind (.become (hcell.set hv)) fun _ _ => .pure trivial
  | requireRegion d s =>
    exact .bind .subject fun _ _ => .bind (.computed _) fun _ _ => .pure trivial
  | ensure d => exact .bind (Condition.preserves_force d) fun _ _ => .pure trivial
  | «break» d => exact .bind (Condition.preserves_force (.not d)) fun _ _ => .pure trivial

theorem preserves_refute (ha : a.FitsBothWays details) :
    Turn.Preserves c.Kept (a.refute details size) fun _ => True := by
  have hcheck : Turn.Preserves c.Kept (do return !(← Turn.ofExcept (a.holds details size (← Turn.subject))))
      fun _ => True :=
    .bind .subject fun _ _ => .bind (.computed _) fun _ _ => .pure trivial
  cases a with
  | set p v =>
    refine .bind .subject fun _ _ => .bind (.computed _) fun excluded _ => ?_
    refine .bind (preserves_pickDistinct p excluded) fun other hother => .bind .subject fun cell hcell => ?_
    exact .bind (.become (hcell.set hother)) fun _ _ => hcheck
  | setDistinct p k =>
    refine .bind (.ofExcept fun v hv => ha v (Details.find_eq_ok.1 hv)) fun v hv => ?_
    exact .bind .subject fun cell hcell => .bind (.become (hcell.set hv)) fun _ _ => hcheck
  | requireRegion d s => exact hcheck
  | ensure d => exact .bind (Condition.preserves_force (.not d)) fun _ _ => hcheck
  | «break» d => exact .bind (Condition.preserves_force d) fun _ _ => hcheck

end CellAction

theorem preserves_breakAntecedent {antecedent : Option Condition} {action : Option CellAction}
    (ha : ∀ a, action = some a → a.Fits details) :
    Turn.Preserves c.Kept (breakAntecedent antecedent action details size) fun _ => True := by
  have hforce : Turn.Preserves c.Kept (breakAntecedent antecedent none details size) fun _ => True := by
    refine .bind .subject fun _ _ => .bind (.computed _) fun _ _ => .ite ?_ (.pure trivial)
    have hwarn : Turn.Preserves c.Kept (do Turn.warn (.antecedentKept (← Turn.subject).position)) fun _ => True :=
      .bind .subject fun _ _ => .warn _
    cases antecedent with
    | none => exact hwarn
    | some d => exact .bind (Condition.preserves_force (.not d)) fun _ _ => .ite (.pure trivial) hwarn
  cases action with
  | none => exact hforce
  | some a => exact .bind (CellAction.preserves_apply (ha a rfl)) fun _ _ => hforce

theorem mem_of_numbersComparing {wanted : Bool} {op : Comparison} {threshold : Value} {ns : List Int}
    {vs : List Value} (h : numbersComparing wanted op threshold ns = .ok vs) : ∀ v ∈ vs, ∃ n ∈ ns, v = .int n := by
  induction ns generalizing vs with
  | nil =>
    cases h
    simp
  | cons n ns ih =>
    simp only [numbersComparing, except_bind_eq_ok, except_pure_eq_ok] at h
    obtain ⟨holds, -, rest, hrest, rfl⟩ := h
    have htail : ∀ v ∈ rest, ∃ m ∈ n :: ns, v = .int m := fun v hv =>
      (ih hrest v hv).imp fun m hm => ⟨List.mem_cons_of_mem n hm.1, hm.2⟩
    split
    · exact List.forall_mem_cons.2 ⟨⟨n, List.mem_cons_self, rfl⟩, htail⟩
    · exact htail

/-- The number that is kept or drawn is of the domain. -/
theorem preserves_pickComparing {σ : Type} {I : σ → Prop} {wanted : Bool} {op : Comparison}
    {threshold current : Value} (hcurrent : current ∈ Property.number.domain) :
    Turn.Preserves I (pickComparing wanted op threshold current) fun o => ∀ v, o = some v →
      v ∈ Property.number.domain := by
  refine .bind (.ofExcept fun values hvalues => mem_of_numbersComparing hvalues) fun values hvalues => ?_
  split
  · exact .pure (by simp)
  · split
    · refine .pure ?_
      rintro v ⟨⟩
      exact hcurrent
    · refine .bind (preserves_pick hvalues) fun v hv => .pure ?_
      rintro _ ⟨⟩
      obtain ⟨n, hn, rfl⟩ := hv
      exact List.mem_map_of_mem hn

namespace NeighborAction
variable {a : NeighborAction}

/-- Carrying out the action writes no value from outside the domain. -/
def Fits (details : Details) : NeighborAction → Prop
  | set p v => v.Fits details p
  | _ => True

theorem preserves_apply (ha : a.Fits details) (hcell : cell.Ordinary) :
    Turn.Preserves c.Kept (a.apply cell details size) fun _ => True := by
  have hcompare : ∀ wanted op k, Turn.Preserves c.Kept (setComparing wanted op k cell details size)
      fun _ => True := by
    intro wanted op k
    refine .bind .subject fun neighbor hneighbor => ?_
    refine .bind (.computed _) fun comparison _ => ?_
    refine .bind (.computed _) fun threshold _ => ?_
    refine .bind (preserves_pickComparing (hneighbor.1 .number)) fun o ho => ?_
    cases o with
    | none => exact .pure trivial
    | some v => exact .bind (.become (hneighbor.set (ho v rfl))) fun _ _ => .pure trivial
  cases a with
  | set p v =>
    refine .bind .subject fun neighbor hneighbor => ?_
    refine .bind (.ofExcept fun w hw => Ref.Fits.resolve ha rfl ?_ ?_ hw) fun w hw =>
      .bind (.become (hneighbor.set hw)) fun _ _ => .pure trivial
    · rintro _ ⟨⟩
      exact hcell
    · rintro _ ⟨⟩
      exact hneighbor.1
  | setDistinct p k =>
    refine .bind (.computed _) fun excluded _ => ?_
    refine .bind (preserves_pickDistinct p excluded) fun v hv => .bind .subject fun neighbor hneighbor => ?_
    exact .bind (.become (hneighbor.set hv)) fun _ _ => .pure trivial
  | ensureNumber op k => exact hcompare true op k
  | breakNumber op k => exact hcompare false op k

end NeighborAction

theorem Requirement.preserves_satisfyNeighbor {actions : List NeighborAction} (ha : ∀ a ∈ actions, a.Fits details)
    (hcell : cell.Ordinary) :
    Turn.Preserves c.Kept (satisfyNeighbor cell details size actions) fun _ => True := by
  induction actions with
  | nil => exact .pure trivial
  | cons a rest ih =>
    obtain ⟨hfirst, hrest⟩ := List.forall_mem_cons.1 ha
    exact .bind (NeighborAction.preserves_apply hfirst hcell) fun _ _ => .bind (ih hrest) fun _ _ => .pure trivial

end ShapePuzzle
