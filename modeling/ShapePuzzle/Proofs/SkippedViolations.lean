import ShapePuzzle.Proofs.ImplicationEnforcement
import ShapePuzzle.Proofs.PlainValues
import ShapePuzzle.Proofs.RequirementEnforcement
import ShapePuzzle.Proofs.ViolatedImplications

/-!
# Violations that are skipped

An action that writes what the antecedent does not read can be refuted on every cell that meets the antecedent. So
an implication with such an action is left as it is only if its antecedent can be forced onto no cell.
-/
namespace ShapePuzzle
variable {details : Details} {size : Int}

namespace CellAction

/-- The action writes a property that neither the antecedent reads nor the value that is to be set, as no placeholder,
constant or number reads any. -/
def DetachedFrom (antecedent : Option Condition) : CellAction → Prop
  | set p v => v.reads p = false ∧ Condition.reads? antecedent p = false
  | setDistinct p _ => Condition.reads? antecedent p = false
  | requireRegion _ _ | ensure _ | .break _ => False

variable {a : CellAction} {antecedent : Option Condition} {st st' : Cell × Luck} {b : Bool}

private theorem evaluate?_set {p : Property} (hp : Condition.reads? antecedent p = false) (cell : Cell) (v : Value) :
    Condition.evaluate? ((cell.set p v).context details size) antecedent =
      Condition.evaluate? (cell.context details size) antecedent :=
  (Condition.evaluate?_context_congr (Cell.agreeOn_set (by simp [hp]) cell v) details size).symm

/-- A detached action that is refuted does not hold, and the antecedent is decided as before. -/
theorem DetachedFrom.refute_spec (ha : a.DetachedFrom antecedent) (hdetails : details.Plain)
    (h : (a.refute details size) st = .ok b st') :
    b = true ∧ a.holds details size st'.1 = .ok false ∧
      Condition.evaluate? (st'.1.context details size) antecedent =
        Condition.evaluate? (st.1.context details size) antecedent := by
  cases a with
  | set p v =>
    obtain ⟨hv, hp⟩ := ha
    obtain ⟨⟨w, other, hw, hother, hset⟩, hholds⟩ := refute_set_spec h
    have hagain : v.resolve (st'.1.context details size) = .ok w := by
      rw [hset, ← hw]
      cases v with
      | cellProperty q =>
        have hq : q ≠ p := by simpa [Ref.reads] using hv
        simp only [Ref.resolve, Cell.context, Cell.get_set_of_ne _ hq]
      | _ => rfl
    have hfalse : (set p v).holds details size st'.1 = .ok false := except_bind_eq_ok.2 ⟨w, hagain, by
      rw [hset, Cell.get_set_self, Value.strictlyEquals_of_isIn_eq_false hother]
      rfl⟩
    refine ⟨?_, hfalse, by rw [hset, evaluate?_set hp]⟩
    rw [hholds] at hfalse
    simpa using hfalse
  | setDistinct p k =>
    obtain ⟨⟨w, hw, hset⟩, hholds⟩ := refute_setDistinct_spec h
    have hfalse : (setDistinct p k).holds details size st'.1 = .ok false :=
      except_bind_eq_ok.2 ⟨w, Details.find_eq_ok.2 hw, by
        rw [hset, Cell.get_set_self, (hdetails k w hw).strictlyEquals_self]
        rfl⟩
    refine ⟨?_, hfalse, by rw [hset, evaluate?_set ha]⟩
    rw [hholds] at hfalse
    simpa using hfalse
  | requireRegion d s => exact ha.elim
  | ensure c => exact ha.elim
  | «break» c => exact ha.elim

end CellAction

/-- Forcing the antecedent was in vain on a copy of one cell after the other, from one luck to another. -/
inductive Condition.ForcedInVain (antecedent : Option Condition) (details : Details) (size : Int) :
    List Cell → Luck → Luck → Prop where
  | done (luck : Luck) : ForcedInVain antecedent details size [] luck luck
  | cell {cell copy : Cell} {cells : List Cell} {luck luck₁ luck₂ : Luck} :
    (Condition.force? details size antecedent) (cell, luck) = .ok false (copy, luck₁) →
      ForcedInVain antecedent details size cells luck₁ luck₂ →
        ForcedInVain antecedent details size (cell :: cells) luck luck₂

/-- A cell onto which the antecedent cannot be forced does not meet it. -/
theorem Condition.ForcedInVain.evaluate? {antecedent : Option Condition} {cells : List Cell} {luck luck' : Luck}
    (h : ForcedInVain antecedent details size cells luck luck') :
    ∀ c ∈ cells, Condition.evaluate? (c.context details size) antecedent = .ok false := by
  induction h with
  | done luck => simp
  | cell hforce _ ih =>
    refine List.forall_mem_cons.2 ⟨?_, ih⟩
    cases antecedent with
    | none => cases hforce
    | some c => exact evaluate_of_force_false hforce

private theorem force?_of_forcedAside {antecedent : Option Condition} {cell : Cell} {st st' : Grid × Luck}
    (h : (forcedAside antecedent details size cell) st = .ok none st') :
    ∃ copy, (Condition.force? details size antecedent) (cell, st.2) = .ok false (copy, st'.2) := by
  obtain ⟨⟨done, copy⟩, st₁, haside, h⟩ := Turn.bind_eq_ok.1 h
  obtain ⟨luck, hforce, rfl⟩ := Turn.aside_eq_ok.1 haside
  cases done with
  | false =>
    obtain ⟨-, rfl⟩ := Turn.pure_eq_ok.1 h
    exact ⟨copy, hforce⟩
  | true => cases (Turn.pure_eq_ok.1 h).1

namespace Implication
variable {r : Implication} {a : CellAction} {cell : Cell}

private theorem commit_ne_false {k : Nat} {c : Cell} {st st' : Grid × Luck} :
    (do Turn.commit k c; return true : Turn Grid Bool) st ≠ .ok false st' := by
  intro h
  obtain ⟨_, _, -, h⟩ := Turn.bind_eq_ok.1 h
  cases (Turn.pure_eq_ok.1 h).1

private theorem antecedent_of_isWitness (h : r.isWitness details size cell = .ok true) :
    Condition.evaluate? (cell.context details size) r.antecedent = .ok true := by
  obtain ⟨b, hb, h⟩ := except_bind_eq_ok.1 h
  cases b with
  | true => exact hb
  | false => cases h

section Detached
variable (hdetails : details.Plain) (ha : a ∈ r.actions) (hdetached : a.DetachedFrom r.antecedent)
include hdetails ha hdetached

/-- Whatever comes before the detached action, some action is refuted. -/
private theorem meets_refuteSome_of_detached {actions : List CellAction} {st : Grid × Luck} (hmem : a ∈ actions)
    (hcell : Condition.evaluate? (cell.context details size) r.antecedent = .ok true) :
    Turn.Meets (r.refuteSome details size cell actions) st (fun x _ => x ≠ none) fun _ _ => True := by
  induction actions generalizing st with
  | nil => cases hmem
  | cons b rest ih =>
    refine .bind_aside (fun refuted found luck hrun => ?_) fun _ _ => trivial
    -- the search does not get past the detached action: what refuting it finds meets the antecedent and not the action
    have hrefuted : b = a → refuted = true ∧ r.holdsOn details size found ≠ .ok true := by
      rintro rfl
      obtain ⟨hdone, hfails, hantecedent⟩ := hdetached.refute_spec hdetails hrun
      refine ⟨hdone, fun hholds => ?_⟩
      dsimp only at hfails hantecedent
      rcases holdsOn_eq_ok_true.1 hholds with hfalse | ⟨-, hall⟩
      · rw [hantecedent, hcell] at hfalse
        cases hfalse
      · rw [hall b ha] at hfails
        cases hfails
    have hrest : b ≠ a → a ∈ rest := fun hne => (List.mem_cons.1 hmem).resolve_left (Ne.symm hne)
    cases refuted with
    | false => exact ih (hrest fun h => by cases (hrefuted h).1)
    | true =>
      refine .bind_ofExcept (fun holds hholds => ?_) fun _ _ => trivial
      cases holds with
      | true => exact ih (hrest fun h => (hrefuted h).2 hholds)
      | false => exact .pure nofun

private theorem meets_counterexample_of_detached {st : Grid × Luck}
    (hcell : Condition.evaluate? (cell.context details size) r.antecedent = .ok true) :
    Turn.Meets (r.counterexample details size cell) st (fun x _ => x ≠ none) fun _ _ => True := by
  have hrefute : ∀ {st₁ : Grid × Luck}, Turn.Meets (do r.refuteSome details size cell (← shuffle r.actions)) st₁
      (fun x _ => x ≠ none) fun _ _ => True :=
    .bind (Q := fun actions _ => a ∈ actions) (meets_shuffle fun _ hperm _ _ => hperm.mem_iff.2 ha) fun _ _ hmem =>
      meets_refuteSome_of_detached hdetails ha hdetached hmem hcell
  dsimp only [counterexample]
  cases r.violation with
  | none => exact hrefute
  | some v =>
    refine .bind_aside (fun _ found luck _ => .bind_ofExcept (fun holds _ => ?_) fun _ _ => trivial) fun _ _ => trivial
    cases holds with
    | true => exact hrefute
    | false => exact .pure nofun

/-- Any witness there is can be used. -/
private theorem eq_nil_of_violateWitness {cells : List (Cell × Nat)} {st st' : Grid × Luck}
    (hcells : ∀ p ∈ cells, Condition.evaluate? (p.1.context details size) r.antecedent = .ok true)
    (h : (r.violateWitness details size cells) st = .ok false st') : cells = [] := by
  cases cells with
  | nil => rfl
  | cons p rest =>
    obtain ⟨x, st₁, hx, h⟩ := Turn.bind_eq_ok.1 h
    have hsome := (meets_counterexample_of_detached hdetails ha hdetached (hcells p List.mem_cons_self)).ok hx
    cases x with
    | none => exact absurd rfl hsome
    | some found => exact absurd h commit_ne_false

/-- A cell onto which the antecedent could be forced would have become a counterexample. -/
private theorem forcedInVain_of_violateForced {cells : List (Cell × Nat)} {st st' : Grid × Luck}
    (h : (r.violateForced details size cells) st = .ok false st') :
    Condition.ForcedInVain r.antecedent details size (cells.map (·.1)) st.2 st'.2 := by
  induction cells generalizing st with
  | nil =>
    cases h
    exact .done _
  | cons p rest ih =>
    obtain ⟨x, st₁, hx, h⟩ := Turn.bind_eq_ok.1 h
    cases x with
    | none =>
      obtain ⟨copy, hforce⟩ := force?_of_forcedAside hx
      exact .cell hforce (ih h)
    | some forced =>
      have hforced := (((meets_forcedAside (.refl st)).ok hx).2 forced rfl).2
      obtain ⟨holds, _, hholds, h⟩ := Turn.bind_eq_ok.1 h
      cases holds with
      | false => exact absurd h commit_ne_false
      | true =>
        obtain ⟨y, st₃, hy, h⟩ := Turn.bind_eq_ok.1 h
        have hsome := (meets_counterexample_of_detached hdetails ha hdetached hforced).ok hy
        cases y with
        | none => exact absurd rfl hsome
        | some found => exact absurd h commit_ne_false

/-- Where no witness could be used there is none, and nothing was drawn. -/
private theorem state_of_violateFound {g : Grid} {luck : Luck} {st : Grid × Luck}
    (h : (r.violateFound details g) (g, luck) = .ok false st) : st = (g, luck) := by
  obtain ⟨ws, _, hws, h⟩ := Turn.bind_eq_ok.1 h
  obtain ⟨hwitnesses, rfl⟩ := Turn.ofExcept_eq_ok.1 hws
  obtain ⟨found, st₁, hfound, h⟩ := Turn.bind_eq_ok.1 h
  have hperm := (shuffle_spec hfound).1
  have hcells : ∀ p ∈ found, Condition.evaluate? (p.1.context details g.size) r.antecedent = .ok true := fun p hp =>
    antecedent_of_isWitness ((mem_witnesses hwitnesses p).1 (hperm.mem_iff.1 hp)).2
  obtain rfl := eq_nil_of_violateWitness hdetails ha hdetached hcells h
  obtain rfl := hperm.nil_eq
  cases hfound
  cases h
  rfl

end Detached

/-- How a violation comes to be skipped: the antecedent is forced in vain on a copy of every cell, in an order that was
drawn before, and that is logged. -/
def ForcedEverywhere (r : Implication) (details : Details) (g : Grid) (luck luck' : Luck) : Prop :=
  ∃ (order cells : List (Cell × Nat)) (luck₁ luck₂ : Luck),
    (shuffle g.numbered : Turn Grid _) (g, luck) = .ok order (g, luck₁) ∧ cells.Perm order ∧
      Condition.ForcedInVain r.antecedent details g.size (cells.map (·.1)) luck₁ luck₂ ∧
      luck' = { luck₂ with warnings := luck₂.warnings ++ [.implicationKept] }

theorem ForcedEverywhere.evaluate? {g : Grid} {luck luck' : Luck} (h : r.ForcedEverywhere details g luck luck') :
    ∀ c ∈ g.cells, Condition.evaluate? (c.context details g.size) r.antecedent = .ok false := by
  obtain ⟨order, cells, luck₁, luck₂, hshuffle, hperm, hvain, -⟩ := h
  intro c hc
  obtain ⟨k, hk⟩ := List.mem_iff_getElem?.1 hc
  have hnumbered : (c, k) ∈ cells := (hperm.trans (shuffle_spec hshuffle).1).mem_iff.2 (Grid.mem_numbered.2 hk)
  exact hvain.evaluate? c (List.mem_map.2 ⟨_, hnumbered, rfl⟩)

private theorem forcedEverywhere_of_violateElsewhere {g : Grid} {luck : Luck} {st : Grid × Luck} {u : Unit}
    (hdetails : details.Plain) (ha : a ∈ r.actions) (hdetached : a.DetachedFrom r.antecedent)
    (h : (r.violateElsewhere details g) (g, luck) = .ok u st) (hlogged : st.2.warnings ≠ luck.warnings) :
    r.ForcedEverywhere details g luck st.2 := by
  obtain ⟨order, ⟨g₁, luck₁⟩, hshuffle, h⟩ := Turn.bind_eq_ok.1 h
  obtain ⟨hperm, hsame⟩ := shuffle_spec hshuffle
  dsimp only at hsame
  subst hsame
  have hunmoved : Unmoved (g₁, luck) (g₁, luck₁) := ⟨rfl, (silent_shuffle _).warnings_eq hshuffle⟩
  obtain ⟨⟨outs, ins⟩, _, hsplit, h⟩ := Turn.bind_eq_ok.1 h
  obtain ⟨hregion, rfl⟩ := Turn.ofExcept_eq_ok.1 hsplit
  have hcells := perm_of_byRegion hregion
  obtain ⟨done, st₂, hforced, h⟩ := Turn.bind_eq_ok.1 h
  cases done with
  | true =>
    obtain ⟨-, rfl⟩ := Turn.pure_eq_ok.1 h
    have htried : r.Tried details (g₁, luck) true st₂ := (meets_violateForced
      (fun p hp => Grid.mem_numbered.1 ((hcells.trans hperm).mem_iff.1 hp)) hunmoved).ok hforced
    exact absurd htried.1 hlogged
  | false =>
    obtain rfl := Turn.warn_eq_ok.1 h
    exact ⟨order, outs ++ ins, luck₁, st₂.2, hshuffle, hcells,
      forcedInVain_of_violateForced hdetails ha hdetached hforced, rfl⟩

/-- If some action is detached from the antecedent, a violation is said to be skipped only where forcing the antecedent
was in vain on a copy of every cell, and so no cell meets the antecedent. -/
theorem forced_in_vain_of_violate {g g' : Grid} {luck luck' : Luck} (hdetails : details.Plain)
    (hdetached : ∃ a ∈ r.actions, a.DetachedFrom r.antecedent)
    (hrun : (r.violate details) (g, luck) = .ok () (g', luck')) (hkept : .implicationKept ∈ luck.news luck') :
    (∀ c ∈ g.cells, Condition.evaluate? (c.context details g.size) r.antecedent = .ok false) ∧
      r.ForcedEverywhere details g luck luck' := by
  obtain ⟨a, ha, hdetached⟩ := hdetached
  have hlogged : luck'.warnings ≠ luck.warnings := fun hquiet => by simp [Luck.news, hquiet] at hkept
  rw [violate_eq] at hrun
  obtain ⟨_, _, hs, h⟩ := Turn.bind_eq_ok.1 hrun
  obtain ⟨rfl, rfl⟩ := Turn.subject_eq_ok.1 hs
  obtain ⟨done, st₁, hfound, h⟩ := Turn.bind_eq_ok.1 h
  cases done with
  | true =>
    obtain ⟨-, rfl⟩ := Turn.pure_eq_ok.1 h
    exact absurd ((r.meets_violateFound details (g, luck)).ok hfound).1 hlogged
  | false =>
    obtain rfl := state_of_violateFound hdetails ha hdetached hfound
    have hskipped := forcedEverywhere_of_violateElsewhere hdetails ha hdetached h hlogged
    exact ⟨hskipped.evaluate?, hskipped⟩

/-- A circle that stands in the first column and in the last is not of the tone that the details give. -/
def bothColumns : Implication where
  antecedent := some (.all [.compare .equals (.cellProperty .shape) (.constant (.text "circle")),
    .inRegion (.constant (.text "left")) (.number (.int 1)), .inRegion (.constant (.text "right")) (.number (.int 1))])
  actions := [.requireRegion (.constant (.text "left")) (.number (.int 2)), .setDistinct .color "tone"]
  breakAntecedent := none
  violation := some (.set .number (.number (.int 1)))

/-- No cell of two columns stands in both at once. -/
theorem forced_in_vain_of_violate_bothColumns : ∃ g' luck',
    (bothColumns.violate [("tone", .text "#7ed957")])
        (Requirement.pairOfRows ("square", "#ff82a9") ("circle", "#7ed957"), .start fun _ => 1) = .ok () (g', luck') ∧
      luck'.warnings = [.implicationKept] ∧
      bothColumns.ForcedEverywhere [("tone", .text "#7ed957")]
        (Requirement.pairOfRows ("square", "#ff82a9") ("circle", "#7ed957")) (.start fun _ => 1) luck' := by
  obtain ⟨g', luck', hrun, hwarn⟩ : ∃ g' luck', (bothColumns.violate [("tone", .text "#7ed957")])
      (Requirement.pairOfRows ("square", "#ff82a9") ("circle", "#7ed957"), .start fun _ => 1) = .ok () (g', luck') ∧
      luck'.warnings = [.implicationKept] := ⟨_, _, rfl, rfl⟩
  have hdetails : Details.Plain [("tone", .text "#7ed957")] := by
    intro k v hv
    rw [List.lookup_cons] at hv
    split at hv
    · cases hv
      exact ⟨rfl, trivial⟩
    · cases hv
  have hdetached : ∃ a ∈ bothColumns.actions, a.DetachedFrom bothColumns.antecedent :=
    ⟨.setDistinct .color "tone", by simp [bothColumns], rfl⟩
  exact ⟨g', luck', hrun, hwarn,
    (forced_in_vain_of_violate hdetails hdetached hrun (by simp [Luck.news, Luck.start, hwarn])).2⟩

end Implication
end ShapePuzzle
