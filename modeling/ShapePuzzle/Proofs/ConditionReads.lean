import ShapePuzzle.Condition.Evaluation
import Mathlib.Tactic.Tauto

/-!
# What a condition looks at

The properties of the cell that a condition reads are known beside it; here are those of the neighbor. A
condition has the same value, or the same fault, in any two contexts that agree on what it reads.
-/
namespace ShapePuzzle

namespace Cell

/-- Two cells at one place with the same values of some properties. -/
def AgreeOn (P : Property → Prop) (c d : Cell) : Prop :=
  c.position = d.position ∧ ∀ p, P p → c.get p = d.get p

theorem AgreeOn.refl (P : Property → Prop) (c : Cell) : AgreeOn P c c :=
  ⟨rfl, fun _ _ => rfl⟩

theorem AgreeOn.trans {P : Property → Prop} {c d e : Cell} (h : AgreeOn P c d) (h' : AgreeOn P d e) :
    AgreeOn P c e :=
  ⟨h.1.trans h'.1, fun p hp => (h.2 p hp).trans (h'.2 p hp)⟩

theorem AgreeOn.mono {P Q : Property → Prop} {c d : Cell} (h : AgreeOn P c d) (hQ : ∀ p, Q p → P p) :
    AgreeOn Q c d :=
  ⟨h.1, fun p hp => h.2 p (hQ p hp)⟩

theorem agreeOn_set {P : Property → Prop} {q : Property} (h : ¬ P q) (c : Cell) (v : Value) :
    AgreeOn P c (c.set q v) := by
  refine ⟨(position_set c q v).symm, fun p hp => (get_set_of_ne c ?_ v).symm⟩
  rintro rfl
  exact h hp

end Cell

def Ref.readsNeighbor : Ref → Property → Bool
  | neighborProperty p, q => p = q
  | _, _ => false

namespace Condition

mutual

/-- Whether the condition looks at a property of the neighbor. -/
def readsNeighbor : Condition → Property → Bool
  | .all cs, p | .any cs, p => someReadsNeighbor cs p
  | .not c, p => c.readsNeighbor p
  | .compare _ l r, p => l.readsNeighbor p || r.readsNeighbor p
  | .between v l h, p => v.readsNeighbor p || l.readsNeighbor p || h.readsNeighbor p
  | .parity v w, p => v.readsNeighbor p || w.readsNeighbor p
  | .prime v, p => v.readsNeighbor p
  | .multipleOf v f, p => v.readsNeighbor p || f.readsNeighbor p
  | .inRegion d s, p => d.readsNeighbor p || s.readsNeighbor p

def someReadsNeighbor : List Condition → Property → Bool
  | [], _ => false
  | c :: cs, p => c.readsNeighbor p || someReadsNeighbor cs p

end

attribute [local simp] reads someReads readsNeighbor someReadsNeighbor

theorem someReads_iff {cs : List Condition} {p : Property} :
    someReads cs p = true ↔ ∃ c ∈ cs, c.reads p = true := by
  induction cs with
  | nil => simp
  | cons c cs ih => simp [ih]

theorem someReadsNeighbor_iff {cs : List Condition} {p : Property} :
    someReadsNeighbor cs p = true ↔ ∃ c ∈ cs, c.readsNeighbor p = true := by
  induction cs with
  | nil => simp
  | cons c cs ih => simp [ih]

theorem mem_properties {c : Condition} {p : Property} : p ∈ c.properties ↔ c.reads p = true := by
  simp [properties, Property.mem_all]

end Condition

variable {own others : Property → Prop}

/-- The reference looks at no other properties of the cell and of its neighbor. -/
def Ref.Within (own others : Property → Prop) (r : Ref) : Prop :=
  (∀ p, r.reads p = true → own p) ∧ ∀ p, r.readsNeighbor p = true → others p

namespace Condition

/-- The condition looks at no other properties of the cell and of its neighbor. -/
def Within (own others : Property → Prop) (c : Condition) : Prop :=
  (∀ p, c.reads p = true → own p) ∧ ∀ p, c.readsNeighbor p = true → others p

theorem within_self (c : Condition) : c.Within (c.reads ·) (c.readsNeighbor ·) :=
  ⟨fun _ hp => hp, fun _ hp => hp⟩

theorem within_all {cs : List Condition} :
    (Condition.all cs).Within own others ↔ ∀ c ∈ cs, c.Within own others := by
  simp only [Within, reads, readsNeighbor, someReads_iff, someReadsNeighbor_iff]
  grind

theorem within_any {cs : List Condition} :
    (Condition.any cs).Within own others ↔ ∀ c ∈ cs, c.Within own others := by
  simp only [Within, reads, readsNeighbor, someReads_iff, someReadsNeighbor_iff]
  grind

theorem within_compare {op : Comparison} {l r : Ref} :
    (Condition.compare op l r).Within own others ↔ l.Within own others ∧ r.Within own others := by
  simp only [Within, Ref.Within, reads, readsNeighbor, Bool.or_eq_true, or_imp, forall_and]
  tauto

theorem within_between {v l h : Ref} :
    (Condition.between v l h).Within own others ↔
      v.Within own others ∧ l.Within own others ∧ h.Within own others := by
  simp only [Within, Ref.Within, reads, readsNeighbor, Bool.or_eq_true, or_imp, forall_and]
  tauto

theorem within_parity {v w : Ref} :
    (Condition.parity v w).Within own others ↔ v.Within own others ∧ w.Within own others := by
  simp only [Within, Ref.Within, reads, readsNeighbor, Bool.or_eq_true, or_imp, forall_and]
  tauto

theorem within_multipleOf {v f : Ref} :
    (Condition.multipleOf v f).Within own others ↔ v.Within own others ∧ f.Within own others := by
  simp only [Within, Ref.Within, reads, readsNeighbor, Bool.or_eq_true, or_imp, forall_and]
  tauto

theorem within_inRegion {d s : Ref} :
    (Condition.inRegion d s).Within own others ↔ d.Within own others ∧ s.Within own others := by
  simp only [Within, Ref.Within, reads, readsNeighbor, Bool.or_eq_true, or_imp, forall_and]
  tauto

end Condition

/-- Two contexts that differ at most in properties of the cell or of the neighbor that are not listed. -/
structure Context.AgreeOn (own others : Property → Prop) (x y : Context) : Prop where
  details : x.details = y.details
  size : x.size = y.size
  cell : Option.Rel (Cell.AgreeOn own) x.cell y.cell
  neighbor : Option.Rel (fun c d => ∀ p, others p → c.get p = d.get p) x.neighbor y.neighbor

variable {x y : Context}

theorem Ref.resolve_congr (h : Context.AgreeOn own others x y) {r : Ref} (hr : r.Within own others) :
    r.resolve x = r.resolve y := by
  obtain ⟨d, c, n, size⟩ := x
  obtain ⟨d', c', n', size'⟩ := y
  obtain ⟨hd, hsize, hc, hn⟩ := h
  simp only at hd hsize hc hn
  subst hd
  cases r with
  | placeholder k => rfl
  | placeholderName k => rfl
  | constant v => rfl
  | number m => rfl
  | cellProperty p =>
    have hp : own p := hr.1 p (by simp [reads])
    cases hc with
    | none => rfl
    | some hc => simp only [resolve, hc.2 p hp]
  | neighborProperty p =>
    have hp : others p := hr.2 p (by simp [readsNeighbor])
    cases hn with
    | none => rfl
    | some hn => simp only [resolve, hn p hp]

namespace Condition

private theorem evaluateRegion_congr (h : Context.AgreeOn own others x y) {d s : Ref}
    (hd : d.Within own others) (hs : s.Within own others) : evaluateRegion x d s = evaluateRegion y d s := by
  have hsize := h.size
  have hcell := h.cell
  unfold evaluateRegion
  rw [Ref.resolve_congr h hd, Ref.resolve_congr h hs, hsize]
  generalize x.cell = c at hcell
  generalize y.cell = c' at hcell
  cases hcell with
  | none => rfl
  | some hc => simp only [hc.1]

mutual

/-- A condition does not depend on anything but what it reads. -/
theorem evaluate_congr (h : Context.AgreeOn own others x y) :
    ∀ (c : Condition), c.Within own others → c.evaluate x = c.evaluate y
  | .all cs, hc => by simp only [evaluate, evaluateAll_congr h cs (within_all.1 hc)]
  | .any cs, hc => by simp only [evaluate, evaluateAny_congr h cs (within_any.1 hc)]
  | .not c, hc => by simp only [evaluate, evaluate_congr h c hc]
  | .compare op l r, hc => by
    obtain ⟨hl, hr⟩ := within_compare.1 hc
    simp only [evaluate, Ref.resolve_congr h hl, Ref.resolve_congr h hr]
  | .between v l u, hc => by
    obtain ⟨hv, hl, hu⟩ := within_between.1 hc
    simp only [evaluate, evaluateBetween, Ref.resolve_congr h hv, Ref.resolve_congr h hl, Ref.resolve_congr h hu]
  | .parity v w, hc => by
    obtain ⟨hv, hw⟩ := within_parity.1 hc
    simp only [evaluate, evaluateParity, Ref.resolve_congr h hv, Ref.resolve_congr h hw]
  | .prime v, hc => by
    have hv : v.Within own others := hc
    simp only [evaluate, evaluatePrime, Ref.resolve_congr h hv]
  | .multipleOf v f, hc => by
    obtain ⟨hv, hf⟩ := within_multipleOf.1 hc
    simp only [evaluate, evaluateMultiple, Ref.resolve_congr h hv, Ref.resolve_congr h hf]
  | .inRegion d s, hc => evaluateRegion_congr h (within_inRegion.1 hc).1 (within_inRegion.1 hc).2

theorem evaluateAll_congr (h : Context.AgreeOn own others x y) :
    ∀ (cs : List Condition), (∀ c ∈ cs, c.Within own others) → evaluateAll x cs = evaluateAll y cs
  | [], _ => rfl
  | c :: cs, hcs => by
    have hc := evaluate_congr h c (hcs c List.mem_cons_self)
    have hrest := evaluateAll_congr h cs fun d hd => hcs d (List.mem_cons_of_mem c hd)
    simp only [evaluateAll, hc, hrest]

theorem evaluateAny_congr (h : Context.AgreeOn own others x y) :
    ∀ (cs : List Condition), (∀ c ∈ cs, c.Within own others) → evaluateAny x cs = evaluateAny y cs
  | [], _ => rfl
  | c :: cs, hcs => by
    have hc := evaluate_congr h c (hcs c List.mem_cons_self)
    have hrest := evaluateAny_congr h cs fun d hd => hcs d (List.mem_cons_of_mem c hd)
    simp only [evaluateAny, hc, hrest]

end

/-- On a cell without a neighbor only the properties that a condition reads decide it. -/
theorem evaluate_context_congr {c : Condition} {cell cell' : Cell} (h : cell.AgreeOn (c.reads ·) cell')
    (details : Details) (size : Int) :
    c.evaluate (cell.context details size) = c.evaluate (cell'.context details size) := by
  have hctx : Context.AgreeOn (c.reads ·) (c.readsNeighbor ·) (cell.context details size)
      (cell'.context details size) := ⟨rfl, rfl, .some h, .none⟩
  exact evaluate_congr hctx c c.within_self

/-- What an antecedent looks at; an absent one looks at nothing. -/
def reads? : Option Condition → Property → Bool
  | none, _ => false
  | some c, p => c.reads p

theorem evaluate?_context_congr {c? : Option Condition} {cell cell' : Cell}
    (h : cell.AgreeOn (reads? c? ·) cell') (details : Details) (size : Int) :
    evaluate? (cell.context details size) c? = evaluate? (cell'.context details size) c? := by
  cases c? with
  | none => rfl
  | some c => exact evaluate_context_congr h details size

/-- Cells that agree on the properties listed for a condition give it the same value or the same fault. -/
theorem evaluate_eq_of_properties {c : Condition} (hdetails : x.details = y.details)
    (hneighbor : x.neighbor = y.neighbor) (hsize : x.size = y.size)
    (hcell : Option.Rel (Cell.AgreeOn (· ∈ c.properties)) x.cell y.cell) : c.evaluate x = c.evaluate y := by
  have hsame : Option.Rel (fun n n' => ∀ p, c.readsNeighbor p = true → n.get p = n'.get p) x.neighbor y.neighbor := by
    rw [hneighbor]
    cases y.neighbor with
    | none => exact .none
    | some n => exact .some fun _ _ => rfl
  have hctx : Context.AgreeOn (· ∈ c.properties) (c.readsNeighbor ·) x y := ⟨hdetails, hsize, hcell, hsame⟩
  exact evaluate_congr hctx c ⟨fun _ hp => mem_properties.2 hp, fun _ hp => hp⟩

/-- Six is a multiple of the number, and the cell is as far left as the number says. -/
def numberRules : Condition :=
  .all [.multipleOf (.number (.int 6)) (.cellProperty .number),
    .inRegion (.constant (.text "left")) (.cellProperty .number)]

def pinkCell (shape : String) (n : Int) : Cell := ⟨.text shape, .text "#ff82a9", .int n, ⟨0, 1⟩⟩

/-- Circles and squares meet this alike, and neither has a multiple of zero. -/
theorem evaluate_eq_of_properties_pinkCell :
    numberRules.properties = [.number] ∧
    numberRules.evaluate ((pinkCell "circle" 2).context [] 5) = .ok true ∧
    numberRules.evaluate ((pinkCell "square" 2).context [] 5) = .ok true ∧
    ∃ e, numberRules.evaluate ((pinkCell "circle" 0).context [] 5) = .error e ∧
      numberRules.evaluate ((pinkCell "square" 0).context [] 5) = .error e := by
  have hlisted : numberRules.properties = [.number] := by decide
  have hsame : ∀ n, numberRules.evaluate ((pinkCell "square" n).context [] 5) =
      numberRules.evaluate ((pinkCell "circle" n).context [] 5) := by
    intro n
    refine evaluate_eq_of_properties rfl rfl rfl (.some ⟨rfl, fun p hp => ?_⟩)
    rw [hlisted, List.mem_singleton] at hp
    rw [hp]
    rfl
  exact ⟨hlisted, rfl, (hsame 2).trans rfl, _, rfl, hsame 0⟩

end Condition
end ShapePuzzle
