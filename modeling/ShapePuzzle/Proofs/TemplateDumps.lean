import ShapePuzzle.Proofs.ConditionDumps

/-!
# Templates read from their dumps

Whatever was read as a part of a template, and every template, is read back from what is written for it: all fields
under their names, with the defaults filled in.
-/
namespace ShapePuzzle
open Checked (map_good seq_good seqLeft_good)
open Fields (required_good optional_good)

theorem Condition.toValue_ne_null (c : Condition) : c.toValue ≠ .null := by
  cases c <;> nofun

theorem rereads_map {α : Type} {read : Value → Checked α} {write : α → Value}
    (h : ∀ a, read (write a) = .good a) : Rereads read write :=
  fun _ a _ => h a

namespace CellAction

theorem toValue_ne_null (a : CellAction) : a.toValue ≠ .null := by
  cases a <;> nofun

private theorem exists_condition {n : Nesting} {make : Condition → CellAction} {t : String} {fs : Fields Value}
    {a : CellAction} (hvariant : (variants n).lookup t = some (readCondition n make))
    (ha : readCondition n make fs = .good a) :
    ∃ c, make c = a ∧ readAt n (.object [("action", .text t), ("condition", c.toValue)]) = .good (make c) := by
  obtain ⟨c, hc, rfl⟩ := Checked.map_eq_good.1 (Checked.seqLeft_eq_good.1 ha).1
  have hagain := (Condition.rereads_readAt n).of_required hc
  exact ⟨c, rfl, Value.asVariant_good ["action", "condition"] rfl (by decide) rfl hvariant
    (seqLeft_good (map_good _ (required_good rfl hagain)) rfl)⟩

theorem rereads_readAt (n : Nesting) : Rereads (readAt n) toValue := by
  intro v a h
  obtain ⟨fs, t, read, hread, ha⟩ := Value.exists_of_asVariant h
  simp only [variants, List.mem_cons, List.not_mem_nil, or_false, Prod.mk.injEq] at hread
  rcases hread with ⟨rfl, rfl⟩ | ⟨rfl, rfl⟩ | ⟨rfl, rfl⟩ | ⟨rfl, rfl⟩ | ⟨rfl, rfl⟩
  · obtain ⟨_, value, hmake, -, rfl⟩ := Checked.seq_eq_good.1 (Checked.seqLeft_eq_good.1 ha).1
    obtain ⟨p, -, rfl⟩ := Checked.map_eq_good.1 hmake
    exact Value.asVariant_good ["action", "property", "value"] rfl (by decide) rfl rfl
      (seqLeft_good (seq_good (map_good _ (required_good rfl p.read_toValue))
        (required_good rfl value.read_toValue)) rfl)
  · obtain ⟨_, k, hmake, -, rfl⟩ := Checked.seq_eq_good.1 (Checked.seqLeft_eq_good.1 ha).1
    obtain ⟨p, -, rfl⟩ := Checked.map_eq_good.1 hmake
    exact Value.asVariant_good ["action", "property", "fromPlaceholder"] rfl (by decide) rfl rfl
      (seqLeft_good (seq_good (map_good _ (required_good rfl p.read_toValue)) (required_good rfl rfl)) rfl)
  · obtain ⟨_, size, hmake, -, rfl⟩ := Checked.seq_eq_good.1 (Checked.seqLeft_eq_good.1 ha).1
    obtain ⟨direction, -, rfl⟩ := Checked.map_eq_good.1 hmake
    exact Value.asVariant_good ["action", "direction", "size"] rfl (by decide) rfl rfl
      (seqLeft_good (seq_good (map_good _ (required_good rfl direction.read_toValue))
        (required_good rfl size.read_toValue)) rfl)
  · obtain ⟨c, rfl, hagain⟩ := exists_condition (t := "ensureCellCondition") rfl ha
    exact hagain
  · obtain ⟨c, rfl, hagain⟩ := exists_condition (t := "breakCellCondition") rfl ha
    exact hagain

end CellAction

theorem ComparisonSpec.read_toValue (s : ComparisonSpec) : ComparisonSpec.read s.toValue = .good s := by
  cases s with
  | named op => cases op <;> rfl
  | ref r =>
    have hnamed : ∃ issues, Value.asNamed Comparison.ofName? r.toValue = .bad issues := by
      cases r <;> exact ⟨_, rfl⟩
    obtain ⟨issues, hnamed⟩ := hnamed
    simp only [read, toValue, hnamed, r.read_toValue]

namespace NeighborAction

theorem toValue_ne_null (a : NeighborAction) : a.toValue ≠ .null := by
  cases a <;> nofun

theorem read_toValue (a : NeighborAction) : NeighborAction.read a.toValue = .good a := by
  have hnumber : ∀ {t : String} {make : ComparisonSpec → String → NeighborAction} (s : ComparisonSpec) (k : String),
      variants.lookup t = some (readNumber make) → NeighborAction.read (.object [("action", .text t),
        ("comparison", s.toValue), ("placeholder", .text k)]) = .good (make s k) := fun s k hvariant =>
    Value.asVariant_good ["action", "comparison", "placeholder"] rfl (by decide) rfl hvariant
      (seqLeft_good (seq_good (map_good _ (required_good rfl s.read_toValue)) (required_good rfl rfl)) rfl)
  cases a with
  | set p v =>
    exact Value.asVariant_good ["action", "property", "value"] rfl (by decide) rfl rfl
      (seqLeft_good (seq_good (map_good _ (required_good rfl p.read_toValue)) (required_good rfl v.read_toValue)) rfl)
  | setDistinct p k =>
    exact Value.asVariant_good ["action", "property", "fromPlaceholder"] rfl (by decide) rfl rfl
      (seqLeft_good (seq_good (map_good _ (required_good rfl p.read_toValue)) (required_good rfl rfl)) rfl)
  | ensureNumber s k => exact hnumber s k rfl
  | breakNumber s k => exact hnumber s k rfl

theorem rereads_read : Rereads NeighborAction.read toValue := rereads_map read_toValue

end NeighborAction

section Rules
variable {fs gs : Fields Value}

private theorem rereads_antecedent :
    Rereads (Value.nullable Condition.read) (optionalValue Condition.toValue) :=
  (Condition.rereads_readAt _).nullable Condition.toValue_ne_null

theorem Implication.read_again {r : Implication} (h : Implication.read fs = .good r) (hgs : r.toValue = .object gs) :
    Implication.read gs = .good r := by
  have haction : Rereads Implication.readAction CellAction.toValue := CellAction.rereads_readAt _
  have hnullable := haction.nullable CellAction.toValue_ne_null
  obtain ⟨_, violation, hthree, hviolation, rfl⟩ := Checked.seq_eq_good.1 (Checked.seqLeft_eq_good.1 h).1
  obtain ⟨_, breaking, htwo, hbreaking, rfl⟩ := Checked.seq_eq_good.1 hthree
  obtain ⟨_, actions, hone, hactions, rfl⟩ := Checked.seq_eq_good.1 htwo
  obtain ⟨antecedent, hantecedent, rfl⟩ := Checked.map_eq_good.1 hone
  cases hgs
  exact seqLeft_good (seq_good (seq_good (seq_good
    (map_good _ (optional_good rfl (rereads_antecedent.of_optional rfl hantecedent)))
    (optional_good rfl (haction.asList.of_optional rfl hactions)))
    (optional_good rfl (hnullable.of_optional rfl hbreaking)))
    (optional_good rfl (hnullable.of_optional rfl hviolation))) rfl

private theorem NeighborSpec.rereads_read : Rereads (Value.asClosedRecord NeighborSpec.read) NeighborSpec.toValue := by
  intro v s h
  have hconditions : Rereads (Value.asList Condition.read) fun cs => .list (cs.map Condition.toValue) :=
    Rereads.asList (Condition.rereads_readAt _)
  have hviolations := NeighborAction.rereads_read.nullable NeighborAction.toValue_ne_null
  obtain ⟨fs, h⟩ := Value.exists_of_asClosedRecord h
  obtain ⟨_, violation, hthree, hviolation, rfl⟩ := Checked.seq_eq_good.1 (Checked.seqLeft_eq_good.1 h).1
  obtain ⟨_, satisfy, htwo, hsatisfy, rfl⟩ := Checked.seq_eq_good.1 hthree
  obtain ⟨_, conditions, hone, hcs, rfl⟩ := Checked.seq_eq_good.1 htwo
  obtain ⟨direction, -, rfl⟩ := Checked.map_eq_good.1 hone
  exact Value.asClosedRecord_good ["direction", "conditions", "satisfy", "violation"] rfl (by decide)
    (seqLeft_good (seq_good (seq_good (seq_good (map_good _ (required_good rfl direction.read_toValue))
      (optional_good rfl (hconditions.of_optional rfl hcs)))
      (optional_good rfl (NeighborAction.rereads_read.asList.of_optional rfl hsatisfy)))
      (optional_good rfl (hviolations.of_optional rfl hviolation))) rfl)

theorem Requirement.read_again {r : Requirement} (h : Requirement.read fs = .good r) (hgs : r.toValue = .object gs) :
    Requirement.read gs = .good r := by
  have haction : Rereads CellAction.read CellAction.toValue := CellAction.rereads_readAt _
  obtain ⟨_, breaking, htwo, hbreaking, rfl⟩ := Checked.seq_eq_good.1 (Checked.seqLeft_eq_good.1 h).1
  obtain ⟨_, neighbor, hone, hneighbor, rfl⟩ := Checked.seq_eq_good.1 htwo
  obtain ⟨antecedent, hantecedent, rfl⟩ := Checked.map_eq_good.1 hone
  cases hgs
  exact seqLeft_good (seq_good (seq_good
    (map_good _ (optional_good rfl (rereads_antecedent.of_optional rfl hantecedent)))
    (required_good rfl (NeighborSpec.rereads_read.of_required hneighbor)))
    (optional_good rfl ((haction.nullable CellAction.toValue_ne_null).of_optional rfl hbreaking))) rfl

theorem Rule.rereads_read : Rereads Rule.read Rule.toValue := by
  intro v rule h
  obtain ⟨fs, t, read, hread, hrule⟩ := Value.exists_of_asVariant h
  simp only [variants, List.mem_cons, List.not_mem_nil, or_false, Prod.mk.injEq] at hread
  rcases hread with ⟨rfl, rfl⟩ | ⟨rfl, rfl⟩
  · obtain ⟨r, hr, rfl⟩ := Checked.map_eq_good.1 hrule
    exact Value.asVariant_good ["type", "when", "actions", "breakAntecedent", "violation"] rfl (by decide) rfl rfl
      (map_good _ (Implication.read_again hr rfl))
  · obtain ⟨r, hr, rfl⟩ := Checked.map_eq_good.1 hrule
    exact Value.asVariant_good ["type", "when", "neighbor", "breakAntecedent"] rfl (by decide) rfl rfl
      (map_good _ (Requirement.read_again hr rfl))

end Rules

theorem Range.read_toFields (r : Range) (t : String) : Range.read (r.toFields ++ [("type", .text t)]) = .good r := by
  have hinteger : ∀ n : Option Int, Value.nullable Value.asInteger (optionalValue Value.int n) = .good n := by
    intro n
    cases n <;> rfl
  have htext : ∀ s : Option String, Value.nullable Value.asText (optionalValue Value.text s) = .good s := by
    intro s
    cases s <;> rfl
  obtain ⟨low, high, lowRef, highRef, lowOffset, highOffset⟩ := r
  exact seqLeft_good (seq_good (seq_good (seq_good (seq_good (seq_good
    (map_good _ (optional_good rfl (hinteger low))) (optional_good rfl (hinteger high)))
    (optional_good rfl (htext lowRef))) (optional_good rfl (htext highRef)))
    (optional_good rfl rfl)) (optional_good rfl rfl)) rfl

namespace Placeholder

theorem rereads_texts : Rereads (Value.asList Value.asText) texts := Rereads.asText.asList

private theorem exists_excluded {make : List String → Placeholder} {t : String} {fs : Fields Value}
    {p : Placeholder} (hvariant : variants.lookup t = some (readExcluding make)) (hp : readExcluding make fs = .good p) :
    ∃ ks, make ks = p ∧
      Placeholder.read (.object [("type", .text t), ("excludePlaceholders", texts ks)]) = .good (make ks) := by
  obtain ⟨ks, hks, rfl⟩ := Checked.map_eq_good.1 (Checked.seqLeft_eq_good.1 hp).1
  exact ⟨ks, rfl, Value.asVariant_good ["type", "excludePlaceholders"] rfl (by decide) rfl hvariant
    (seqLeft_good (map_good _ (optional_good rfl (rereads_texts.of_optional rfl hks))) rfl)⟩

theorem rereads_read : Rereads Placeholder.read Placeholder.toValue := by
  intro v p h
  obtain ⟨fs, t, read, hread, hp⟩ := Value.exists_of_asVariant h
  simp only [variants, List.mem_cons, List.not_mem_nil, or_false, Prod.mk.injEq] at hread
  have hrange : ∀ {t : String} {make : Range → Placeholder} (r : Range),
      variants.lookup t = some (fun fs => make <$> Range.read fs) →
      Placeholder.read (.object (r.toFields ++ [("type", .text t)])) = .good (make r) := fun r hvariant =>
    Value.asVariant_good ["min", "max", "minRef", "maxRef", "minOffset", "maxOffset", "type"] rfl (by decide) rfl
      hvariant (map_good _ (r.read_toFields _))
  rcases hread with ⟨rfl, rfl⟩ | ⟨rfl, rfl⟩ | ⟨rfl, rfl⟩ | ⟨rfl, rfl⟩ | ⟨rfl, rfl⟩ | ⟨rfl, rfl⟩ | ⟨rfl, rfl⟩ | ⟨rfl, rfl⟩
  · -- shape
    obtain ⟨ks, rfl, hagain⟩ := exists_excluded (t := "shape") rfl hp
    exact hagain
  · -- color
    obtain ⟨ks, rfl, hagain⟩ := exists_excluded (t := "color") rfl hp
    exact hagain
  · -- number
    obtain ⟨r, -, rfl⟩ := Checked.map_eq_good.1 hp
    exact hrange r rfl
  · -- int
    obtain ⟨r, -, rfl⟩ := Checked.map_eq_good.1 hp
    exact hrange r rfl
  · -- choice
    obtain ⟨options, hoptions, rfl⟩ := Checked.map_eq_good.1 (Checked.seqLeft_eq_good.1 hp).1
    have hagain := Rereads.good.asNonempty.of_required hoptions
    rw [List.map_id'] at hagain
    exact Value.asVariant_good ["type", "options"] rfl (by decide) rfl rfl
      (seqLeft_good (map_good _ (required_good rfl hagain)) rfl)
  · -- comparison
    obtain ⟨options, hoptions, rfl⟩ := Checked.map_eq_good.1 (Checked.seqLeft_eq_good.1 hp).1
    exact Value.asVariant_good ["type", "options"] rfl (by decide) rfl rfl
      (seqLeft_good (map_good _ (optional_good rfl (Rereads.asText.asNonempty.of_optional rfl hoptions))) rfl)
  · -- parity
    obtain ⟨_, -, rfl⟩ := Checked.map_eq_good.1 hp
    exact Value.asVariant_good ["type"] rfl (by decide) rfl rfl (map_good _ rfl)
  · -- factor
    have hinteger : Rereads Value.asInteger Value.int := rereads_map fun _ => rfl
    obtain ⟨options, hoptions, rfl⟩ := Checked.map_eq_good.1 (Checked.seqLeft_eq_good.1 hp).1
    exact Value.asVariant_good ["type", "options"] rfl (by decide) rfl rfl
      (seqLeft_good (map_good _ (optional_good rfl (hinteger.asNonempty.of_optional rfl hoptions))) rfl)

end Placeholder

theorem ComputedField.read_toValue (f : ComputedField) : ComputedField.read f.toValue = .good f := by
  have hsourced : ∀ {t : String} {make : String → String → ComputedField} (k source : String),
      variants.lookup t = some (readSourced make) → ComputedField.read (sourced t k source) = .good (make k source) :=
    fun k source hvariant => Value.asVariant_good ["key", "source", "type"] rfl (by decide) rfl hvariant
      (seqLeft_good (seq_good (map_good _ (required_good rfl rfl)) (required_good rfl rfl)) rfl)
  cases f with
  | colorName k source => exact hsourced k source rfl
  | comparisonWord k source => exact hsourced k source rfl
  | comparisonSymbol k source => exact hsourced k source rfl
  | parityPredicate k source => exact hsourced k source rfl
  | regionDescription k direction size =>
    exact Value.asVariant_good ["type", "key", "directionKey", "sizeKey"] rfl (by decide) rfl rfl
      (seqLeft_good (seq_good (seq_good (map_good _ (required_good rfl rfl)) (required_good rfl rfl))
        (required_good rfl rfl)) rfl)
  | stringTemplate k template =>
    exact Value.asVariant_good ["type", "key", "template"] rfl (by decide) rfl rfl
      (seqLeft_good (seq_good (map_good _ (required_good rfl rfl)) (required_good rfl rfl)) rfl)

theorem StatementText.read_toValue (s : StatementText) :
    Value.asClosedRecord StatementText.read s.toValue = .good s := by
  obtain ⟨text, formal, hint⟩ := s
  exact Value.asClosedRecord_good ["text", "fol", "hint"] rfl (by decide)
    (seqLeft_good (seq_good (seq_good (map_good _ (required_good rfl rfl)) (required_good rfl rfl))
      (optional_good rfl rfl)) rfl)

namespace Template

theorem rereads_read : Rereads Template.read Template.toValue := by
  intro v t h
  have htext : Rereads (Value.nullable Value.asText) (optionalValue Value.text) := Rereads.asText.nullable nofun
  have hfields : Rereads (Value.asList ComputedField.read) fun fs => .list (fs.map ComputedField.toValue) :=
    Rereads.asList (rereads_map ComputedField.read_toValue)
  obtain ⟨fs, -, hassembled, hreferences⟩ := Template.assembled_of_read h
  obtain ⟨_, rules, hfive, hrules, rfl⟩ := Checked.seq_eq_good.1 (Checked.seqLeft_eq_good.1 hassembled).1
  obtain ⟨_, statement, hfour, -, rfl⟩ := Checked.seq_eq_good.1 hfive
  obtain ⟨_, fields, hthree, hcomputed, rfl⟩ := Checked.seq_eq_good.1 hfour
  obtain ⟨_, placeholders, htwo, hplaceholders, rfl⟩ := Checked.seq_eq_good.1 hthree
  obtain ⟨_, description, hone, hdescription, rfl⟩ := Checked.seq_eq_good.1 htwo
  obtain ⟨id, hid, rfl⟩ := Checked.map_eq_good.1 hone
  refine Value.asClosedRecord_good ["id", "description", "placeholders", "computedFields", "statement", "rules"] rfl
    (by decide) (Checked.andThen_eq_good.2 ⟨_, ?_, by rw [hreferences]⟩)
  exact seqLeft_good (seq_good (seq_good (seq_good (seq_good (seq_good
    (map_good _ (optional_good rfl (htext.of_optional rfl hid)))
    (optional_good rfl (htext.of_optional rfl hdescription)))
    (optional_good rfl (Placeholder.rereads_read.asFields.of_optional rfl hplaceholders)))
    (optional_good rfl (hfields.of_optional rfl hcomputed)))
    (required_good rfl statement.read_toValue))
    (required_good rfl (Rule.rereads_read.asNonempty.of_required hrules))) rfl

/-- Templates and all that is read in them on its own settle once they are written down. -/
theorem dumps_settle :
    DumpsSettle Template.read Template.toValue ∧ DumpsSettle Rule.read Rule.toValue ∧
    DumpsSettle Condition.read Condition.toValue ∧ DumpsSettle CellAction.read CellAction.toValue ∧
    DumpsSettle NeighborAction.read NeighborAction.toValue ∧ DumpsSettle Ref.read Ref.toValue ∧
    DumpsSettle Placeholder.read Placeholder.toValue ∧ DumpsSettle ComputedField.read ComputedField.toValue :=
  ⟨rereads_read.dumpsSettle, Rule.rereads_read.dumpsSettle, (Condition.rereads_readAt _).dumpsSettle,
    (CellAction.rereads_readAt _).dumpsSettle, NeighborAction.rereads_read.dumpsSettle,
    (rereads_map Ref.read_toValue).dumpsSettle, Placeholder.rereads_read.dumpsSettle,
    (rereads_map ComputedField.read_toValue).dumpsSettle⟩

/-- A template under other names and with fields left out, and with an integer given as a text. -/
def looseDocument : Value := .object [
  ("rules", .list [.object [("type", .text "implication"),
    ("actions", .list [.object [("action", .text "setCellPropertyDistinct"), ("property", .text "color"),
      ("from_placeholder", .text "tone")]])]]),
  ("placeholders", .object [("tone", .object [("type", .text "color")]),
    ("least", .object [("low", .text "3"), ("type", .text "number")])]),
  ("statement", .object [("fol", .text "F"), ("text", .text "No shape has the tone.")])]

theorem dumps_settle_looseDocument : ∃ t, Template.read looseDocument = .good t ∧
    t.placeholders.keys = ["tone", "least"] ∧ Template.read t.toValue = .good t ∧
    toValue <$> Template.read t.toValue = .good t.toValue := by
  obtain ⟨t, ht, hkeys⟩ : ∃ t, Template.read looseDocument = .good t ∧ t.placeholders.keys = ["tone", "least"] :=
    ⟨_, rfl, rfl⟩
  exact ⟨t, ht, hkeys, dumps_settle.1.again ht, dumps_settle.1.unchanged (Checked.map_good toValue ht)⟩

end Template
end ShapePuzzle
