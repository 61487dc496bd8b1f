import ShapePuzzle.Proofs.CellActionEffects

/-!
# Plain values

A plain value is not the number that differs from itself, and no object in it has two fields of one name, as no
object has that was read or built. Such a value equals itself, wherever it is found. So an action on plain values
holds on the cell it leaves just where it was applied.
-/
namespace ShapePuzzle

theorem Place.compare_self (p : Place) : p.compare p = .eq := by
  cases p with
  | bottom => rfl
  | «at» q => simp [compare]
  | top => rfl

theorem Number.equals_self {n : Number} (h : n.isNaN = false) : n.equals n = true := by
  cases n with
  | int m => exact equals_int_int.2 rfl
  | float x =>
    have hplace : ∃ p, x.place? = some p := by
      cases x with
      | nan => cases h
      | infinite negative => cases negative <;> exact ⟨_, rfl⟩
      | negativeZero => exact ⟨_, rfl⟩
      | finite q => exact ⟨_, rfl⟩
    obtain ⟨p, hp⟩ := hplace
    simp [equals, compare?, place?, hp, Place.compare_self]

theorem Fields.lookup_of_mem {α : Type} {fs : Fields α} (h : fs.keys.Nodup) {f : String × α} (hf : f ∈ fs) :
    fs.lookup f.1 = some f.2 := by
  induction fs with
  | nil => cases hf
  | cons g rest ih =>
    obtain ⟨hg, hrest⟩ := List.nodup_cons.1 h
    rcases List.mem_cons.1 hf with rfl | hf
    · rw [List.lookup_cons, beq_self_eq_true]
    · have hne : f.1 ≠ g.1 := fun heq => hg (heq ▸ List.mem_map_of_mem hf)
      rw [List.lookup_cons, beq_eq_false_iff_ne.2 hne]
      exact ih hrest hf

namespace Value

mutual

/-- No object in the value has two fields of one name. -/
def NamesDistinct : Value → Prop
  | .list xs => ItemNamesDistinct xs
  | .object fs => (Fields.keys fs).Nodup ∧ FieldNamesDistinct fs
  | .null | .bool _ | .number _ | .text _ => True

def ItemNamesDistinct : List Value → Prop
  | [] => True
  | x :: xs => x.NamesDistinct ∧ ItemNamesDistinct xs

def FieldNamesDistinct : List (String × Value) → Prop
  | [] => True
  | (_, x) :: rest => x.NamesDistinct ∧ FieldNamesDistinct rest

end

mutual

theorem sameItem_self : ∀ (v : Value), v.NamesDistinct → v.sameItem v = true
  | .null, _ => rfl
  | .bool b, _ => by simp [sameItem, same, number?, Number.equals_int_int]
  | .number n, _ => by
    cases hn : n.isNaN with
    | true => simp [sameItem, isNaN, hn]
    | false => simp [sameItem, same, number?, Number.equals_self hn]
  | .text s, _ => by simp [sameItem, same]
  | .list xs, h => by simp [sameItem, same, sameItems_self xs h]
  | .object fs, h => by
    have hfields := sameFields_of_lookup fs fs (fun f hf => Fields.lookup_of_mem h.1 hf) h.2
    simp [sameItem, same, hfields]

theorem sameItems_self : ∀ (xs : List Value), ItemNamesDistinct xs → sameItems xs xs = true
  | [], _ => rfl
  | x :: xs, h => by
    have hfirst := sameItem_self x h.1
    rw [sameItem] at hfirst
    rw [sameItems, hfirst, sameItems_self xs h.2, Bool.and_true]

theorem sameFields_of_lookup : ∀ (fs gs : List (String × Value)), (∀ f ∈ fs, gs.lookup f.1 = some f.2) →
    FieldNamesDistinct fs → sameFields fs gs = true
  | [], _, _, _ => rfl
  | (k, x) :: rest, gs, hgs, h => by
    have hfirst := sameItem_self x h.1
    rw [sameItem] at hfirst
    have hlookup := hgs (k, x) List.mem_cons_self
    have hrest := sameFields_of_lookup rest gs (fun f hf => hgs f (List.mem_cons_of_mem _ hf)) h.2
    simp only [sameFields, hlookup, hfirst, hrest, Bool.and_true]

end

/-- Not the number that differs from itself, and without fields of one name. -/
structure Plain (v : Value) : Prop where
  isNaN : v.isNaN = false
  namesDistinct : v.NamesDistinct

theorem Plain.strictlyEquals_self {v : Value} (h : v.Plain) : v.strictlyEquals v = true := by
  have hsame := sameItem_self v h.namesDistinct
  rw [sameItem, h.isNaN] at hsame
  cases v with
  | null => rfl
  | bool b => simp [strictlyEquals]
  | number n => exact Number.equals_self h.isNaN
  | text s => simp [strictlyEquals]
  | list xs => exact sameItems_self xs h.namesDistinct
  | object fs => simpa [strictlyEquals] using hsame

end Value

def Details.Plain (details : Details) : Prop := ∀ k v, details.lookup k = some v → v.Plain

/-- The constant, if the reference is one, is plain. -/
def Ref.Plain : Ref → Prop
  | .constant v => v.Plain
  | .number n => n.isNaN = false
  | _ => True

/-- The action sets no constant that is not plain. -/
def CellAction.Plain : CellAction → Prop
  | .set _ v => v.Plain
  | _ => True

def Cell.Plain (c : Cell) : Prop := ∀ p, (c.get p).Plain

variable {details : Details}

theorem Ref.Plain.regular {r : Ref} (hr : r.Plain) (hdetails : details.Plain) : r.Regular details := by
  cases r with
  | placeholder k => exact fun v hv => (hdetails k v hv).strictlyEquals_self
  | placeholderName k => exact fun v hv => (hdetails k v hv).strictlyEquals_self
  | cellProperty p => trivial
  | neighborProperty p => trivial
  | constant v => exact Value.Plain.strictlyEquals_self hr
  | number n => exact Number.equals_self hr

theorem CellAction.Plain.regular {a : CellAction} (ha : a.Plain) (hdetails : details.Plain) : a.Regular details := by
  cases a with
  | set p v => exact Ref.Plain.regular ha hdetails
  | _ => trivial

theorem Cell.Plain.regular {c : Cell} (hc : c.Plain) : c.Regular := fun p => (hc p).strictlyEquals_self

/-- An action that was applied holds on the cell it leaves, and one that needs a break does not. -/
theorem CellAction.verdict_of_apply {a : CellAction} {size : Int} {cell cell' : Cell} {luck luck' : Luck}
    {status : Status} (ha : a.Plain) (hdetails : details.Plain) (hcell : cell.Plain)
    (h : (a.apply details size) (cell, luck) = .ok status (cell', luck')) :
    (status = .applied → a.holds details size cell' = .ok true) ∧
      (status = .needsBreak → a.holds details size cell' = .ok false) := by
  have hholds : a.holds details size cell' = .ok (status = .applied : Bool) :=
    holds_of_apply (ha.regular hdetails) hcell.regular h
  constructor
  · rintro rfl
    exact hholds
  · rintro rfl
    exact hholds

/-- A circle with the number `true` in the first column. -/
def numberedTrue : Cell := ⟨.text "circle", .text "#ff82a9", .bool true, ⟨0, 0⟩⟩

/-- Another number than `true` is another than 1, as both are equal when one is picked. And the cell cannot be moved
out of the first column. -/
theorem CellAction.verdict_of_apply_numberedTrue :
    (∃ cell luck, ((setDistinct .number "old").apply [("old", .bool true)] 5) (numberedTrue, .start fun _ => 0) =
        .ok .applied (cell, luck) ∧ cell.get .number = .int 2 ∧
      (setDistinct .number "old").holds [("old", .bool true)] 5 cell = .ok true) ∧
    ∃ cell luck, ((CellAction.break (.inRegion (.constant (.text "left")) (.number (.int 1)))).apply [] 5)
        (numberedTrue, .start fun _ => 0) = .ok .needsBreak (cell, luck) ∧
      (CellAction.break (.inRegion (.constant (.text "left")) (.number (.int 1)))).holds [] 5 cell = .ok false := by
  have hcell : numberedTrue.Plain := by
    intro p
    cases p <;> exact ⟨rfl, trivial⟩
  have hdetails : Details.Plain [("old", .bool true)] := by
    intro k v hv
    simp only [List.lookup_cons, List.lookup_nil] at hv
    split at hv <;> cases hv
    exact ⟨rfl, trivial⟩
  constructor
  · have hplain : (setDistinct .number "old").Plain := trivial
    obtain ⟨cell, luck, hrun, hnumber⟩ : ∃ cell luck, ((setDistinct .number "old").apply [("old", .bool true)] 5)
        (numberedTrue, .start fun _ => 0) = .ok .applied (cell, luck) ∧ cell.get .number = .int 2 := ⟨_, _, rfl, rfl⟩
    exact ⟨cell, luck, hrun, hnumber, (verdict_of_apply hplain hdetails hcell hrun).1 rfl⟩
  · have hplain : (CellAction.break (.inRegion (.constant (.text "left")) (.number (.int 1)))).Plain := trivial
    have hnone : Details.Plain [] := by
      intro k v hv
      cases hv
    obtain ⟨cell, luck, hrun⟩ : ∃ cell luck,
        ((CellAction.break (.inRegion (.constant (.text "left")) (.number (.int 1)))).apply [] 5)
          (numberedTrue, .start fun _ => 0) = .ok .needsBreak (cell, luck) := ⟨_, _, rfl⟩
    exact ⟨cell, luck, hrun, (verdict_of_apply hplain hnone hcell hrun).2 rfl⟩

end ShapePuzzle
