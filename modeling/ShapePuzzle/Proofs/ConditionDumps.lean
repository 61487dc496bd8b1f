import ShapePuzzle.Proofs.CheckedReadings

/-!
# Conditions read from their dumps

References are read back from whatever is written for them. A condition is read back where there is a place for it
and for all that stands in it, and every condition that was read there has found these places.
-/
namespace ShapePuzzle
open Checked (map_good seq_good seqLeft_good)
open Fields (required_good optional_good)

theorem Property.read_toValue (p : Property) : Property.read p.toValue = .good p := by
  cases p <;> rfl

namespace Ref
variable {n : Nesting}

theorem read_toValue (r : Ref) : Ref.read r.toValue = .good r := by
  have hkey : ∀ {t : String} {make : String → Ref} (k : String), variants.lookup t = some (readKey make) →
      Ref.read (.object [("kind", .text t), ("key", .text k)]) = .good (make k) := fun k hvariant =>
    Value.asVariant_good ["kind", "key"] rfl (by decide) rfl hvariant
      (seqLeft_good (map_good _ (required_good rfl rfl)) rfl)
  have hproperty : ∀ {t : String} {make : Property → Ref} (p : Property), variants.lookup t = some (readProperty make) →
      Ref.read (.object [("kind", .text t), ("property", p.toValue)]) = .good (make p) := fun p hvariant =>
    Value.asVariant_good ["kind", "property"] rfl (by decide) rfl hvariant
      (seqLeft_good (map_good _ (required_good rfl p.read_toValue)) rfl)
  cases r with
  | placeholder k => exact hkey k rfl
  | placeholderName k => exact hkey k rfl
  | cellProperty p => exact hproperty p rfl
  | neighborProperty p => exact hproperty p rfl
  | constant v =>
    exact Value.asVariant_good ["kind", "value"] rfl (by decide) rfl rfl
      (seqLeft_good (map_good _ (required_good rfl rfl)) rfl)
  | number x =>
    exact Value.asVariant_good ["kind", "value"] rfl (by decide) rfl rfl
      (seqLeft_good (map_good _ (required_good rfl rfl)) rfl)

theorem readAt_toValue (hn : n.isFull = false) (r : Ref) : Ref.readAt n r.toValue = .good r := by
  unfold readAt
  rw [hn]
  exact r.read_toValue

theorem isFull_of_readAt {v : Value} {r : Ref} (h : Ref.readAt n v = .good r) : n.isFull = false := by
  cases hn : n.isFull with
  | false => rfl
  | true =>
    unfold readAt at h
    rw [hn] at h
    obtain ⟨fs, t, read, hread, hr⟩ := Value.exists_of_asVariant h
    obtain ⟨_, -, ⟨⟩⟩ := List.mem_map.1 hread
    cases hr

end Ref

namespace Condition
variable {n m : Nesting} {c : Condition} {fs : List (String × Value)} {t : String} {assembly : Assembly}

mutual

/-- Whether there are places for the condition and for all that stands in it. -/
def fits (n : Nesting) : Condition → Bool
  | .all cs => (n.enter? (rank "all")).any fun m => allFit m cs
  | .any cs => (n.enter? (rank "any")).any fun m => allFit m cs
  | .not c => (n.enter? (rank "not")).any fun m => c.fits m
  | .prime _ => (n.enter? 0).isSome
  | .compare _ _ _ | .between _ _ _ | .parity _ _ | .multipleOf _ _ | .inRegion _ _ =>
    (n.enter? 0).any fun m => !m.isFull

def allFit (n : Nesting) : List Condition → Bool
  | [] => true
  | c :: cs => c.fits n && allFit n cs

end

/-- What is read as a part stands where it has found its place. -/
structure Part.Fits (n : Nesting) (p : Part) : Prop where
  ref : ∀ r, p.ref = .good r → n.isFull = false
  one : ∀ c, p.one = .good c → c.fits n = true
  many : ∀ cs, p.many = .good cs → allFit n cs = true

theorem mem_of_choose {operator : Option Value} (h : choose operator = .ok (t, assembly)) :
    (t, assembly) ∈ variants := by
  unfold choose at h
  split at h
  · cases h
  · split at h
    · rename_i hlookup
      cases h
      exact Fields.mem_of_lookup hlookup
    · cases h
  · cases h

theorem exists_of_readAt (h : readAt n (.object fs) = .good c) : ∃ t assembly m, (t, assembly) ∈ variants ∧
    n.enter? (rank t) = some m ∧ assembly (readParts m fs) = .good c := by
  rw [readAt] at h
  cases hchoose : choose (fs.lookup "operator") with
  | error problem =>
    rw [hchoose] at h
    cases h
  | ok found =>
    obtain ⟨t, assembly⟩ := found
    rw [hchoose] at h
    have hread := Checked.under_eq_good.1 h
    cases hm : n.enter? (rank t) with
    | none =>
      rw [hm] at hread
      cases hread
    | some m =>
      rw [hm] at hread
      exact ⟨t, assembly, m, mem_of_choose hchoose, hm, (Fields.legible_eq_good.1 hread).2⟩

theorem keys_readParts (n : Nesting) (fs : List (String × Value)) :
    Fields.keys (readParts n fs) = Fields.keys fs := by
  induction fs with
  | nil => rfl
  | cons f rest ih =>
    obtain ⟨k, v⟩ := f
    rw [readParts]
    exact congrArg (k :: ·) ih

/-- The names of the fields are given, since they alone have to be looked through. -/
theorem readAt_good (names : List String) (hnames : Fields.keys fs = names) (hplain : names.any hasHalf = false)
    (htag : fs.lookup "operator" = some (.text t)) (hchoose : choose (some (.text t)) = .ok (t, assembly))
    (hm : n.enter? (rank t) = some m) (h : assembly (readParts m fs) = .good c) : readAt n (.object fs) = .good c := by
  rw [readAt, htag, hchoose]
  dsimp only
  rw [hm]
  refine Checked.under_eq_good.2 (Fields.legible_eq_good.2 ⟨?_, h⟩)
  rw [keys_readParts, hnames, hplain]

theorem rank_name (op : Comparison) : rank op.name = 0 := by
  cases op <;> rfl

theorem choose_name (op : Comparison) : choose (some (.text op.name)) = .ok (op.name, comparing op) := by
  cases op <;> rfl

theorem fits_of_assembly (hassembly : (t, assembly) ∈ variants) (hm : n.enter? (rank t) = some m)
    {parts : Fields Part} (hparts : ∀ f ∈ parts, f.2.Fits m) (h : assembly parts = .good c) : c.fits n = true := by
  have href : ∀ {k : FieldName} {r : Ref}, parts.required k Part.ref = .good r → m.isFull = false := by
    intro k r hr
    obtain ⟨f, hf, hr⟩ := Fields.exists_of_required hr
    exact (hparts f hf).ref r hr
  have hmany : ∀ {k : FieldName} {cs : List Condition}, parts.optional k [] Part.many = .good cs →
      allFit m cs = true := by
    intro k cs hcs
    rcases Fields.exists_of_optional hcs with rfl | ⟨f, hf, hcs⟩
    · rfl
    · exact (hparts f hf).many cs hcs
  have hleaf : rank t = 0 → m.isFull = false → ((n.enter? 0).any fun m => !m.isFull) = true := by
    intro ht hroom
    rw [← ht, hm, Option.any_some, hroom]
    rfl
  have hpair : ∀ {make : Ref → Ref → Condition} {j k : FieldName} {names : List FieldName},
      (make <$> parts.required j Part.ref <*> parts.required k Part.ref <* parts.only names) = .good c →
      m.isFull = false ∧ ∃ left right, make left right = c := by
    intro make j k names hc
    obtain ⟨_, right, hmake, hright, rfl⟩ := Checked.seq_eq_good.1 (Checked.seqLeft_eq_good.1 hc).1
    obtain ⟨left, -, rfl⟩ := Checked.map_eq_good.1 hmake
    exact ⟨href hright, left, right, rfl⟩
  simp only [variants, List.mem_append, List.mem_cons, List.not_mem_nil, or_false, Prod.mk.injEq,
    List.mem_map] at hassembly
  rcases hassembly with (⟨rfl, rfl⟩ | ⟨rfl, rfl⟩ | ⟨rfl, rfl⟩ | ⟨rfl, rfl⟩ | ⟨rfl, rfl⟩ | ⟨rfl, rfl⟩ | ⟨rfl, rfl⟩ |
    ⟨rfl, rfl⟩) | ⟨op, -, rfl, rfl⟩
  · -- all
    obtain ⟨cs, hcs, rfl⟩ := Checked.map_eq_good.1 (Checked.seqLeft_eq_good.1 h).1
    rw [fits, hm]
    exact hmany hcs
  · -- any
    obtain ⟨cs, hcs, rfl⟩ := Checked.map_eq_good.1 (Checked.seqLeft_eq_good.1 h).1
    rw [fits, hm]
    exact hmany hcs
  · -- not
    obtain ⟨d, hd, rfl⟩ := Checked.map_eq_good.1 (Checked.seqLeft_eq_good.1 h).1
    obtain ⟨f, hf, hd⟩ := Fields.exists_of_required hd
    rw [fits, hm]
    exact (hparts f hf).one d hd
  · -- between
    obtain ⟨_, high, hmake, hhigh, rfl⟩ := Checked.seq_eq_good.1 (Checked.seqLeft_eq_good.1 h).1
    obtain ⟨_, low, hmake', -, rfl⟩ := Checked.seq_eq_good.1 hmake
    obtain ⟨value, -, rfl⟩ := Checked.map_eq_good.1 hmake'
    exact hleaf rfl (href hhigh)
  · -- parity
    obtain ⟨hroom, _, _, rfl⟩ := hpair h
    exact hleaf rfl hroom
  · -- prime, whose reference takes no place of its own
    obtain ⟨value, -, rfl⟩ := Checked.map_eq_good.1 (Checked.seqLeft_eq_good.1 h).1
    rw [fits, Option.isSome_iff_exists]
    exact ⟨m, hm⟩
  · -- multipleOf
    obtain ⟨hroom, _, _, rfl⟩ := hpair h
    exact hleaf rfl hroom
  · -- inRegion
    obtain ⟨hroom, _, _, rfl⟩ := hpair h
    exact hleaf rfl hroom
  · -- comparisons
    obtain ⟨hroom, _, _, rfl⟩ := hpair h
    exact hleaf (rank_name op) hroom

mutual

/-- A condition that was read has found its place. -/
theorem fits_of_readAt : ∀ (n : Nesting) (v : Value) {c : Condition}, readAt n v = .good c → c.fits n = true
  | n, .object fs, c, h => by
    obtain ⟨t, assembly, m, hassembly, hm, hc⟩ := exists_of_readAt h
    exact fits_of_assembly hassembly hm (partsFit m fs) hc
  | _, .null, _, h | _, .bool _, _, h | _, .number _, _, h | _, .text _, _, h | _, .list _, _, h => by cases h

theorem partsFit : ∀ (n : Nesting) (fs : List (String × Value)), ∀ f ∈ readParts n fs, f.2.Fits n
  | _, [] => by simp [readParts]
  | n, (k, v) :: rest => by
    rw [readParts]
    refine List.forall_mem_cons.2 ⟨⟨fun r => Ref.isFull_of_readAt, ?_, ?_⟩, partsFit n rest⟩
    · exact fun c => fits_of_readAt n v
    · exact fun cs => allFit_of_readMany n v

theorem allFit_of_readMany : ∀ (n : Nesting) (v : Value) {cs : List Condition}, readMany n v = .good cs →
    allFit n cs = true
  | n, .list vs, cs, h => allFit_of_readItems n 0 vs h
  | _, .null, _, h | _, .bool _, _, h | _, .number _, _, h | _, .text _, _, h | _, .object _, _, h => by cases h

theorem allFit_of_readItems : ∀ (n : Nesting) (k : Nat) (vs : List Value) {cs : List Condition},
    readItems n k vs = .good cs → allFit n cs = true
  | _, _, [], _, h => by
    cases h
    rfl
  | n, k, v :: vs, _, h => by
    rw [readItems] at h
    obtain ⟨_, cs, hcons, hrest, rfl⟩ := Checked.seq_eq_good.1 h
    obtain ⟨c, hfirst, rfl⟩ := Checked.map_eq_good.1 hcons
    rw [allFit, fits_of_readAt n v (Checked.under_eq_good.1 hfirst), allFit_of_readItems n (k + 1) vs hrest]
    rfl

end

private theorem exists_room (h : ((n.enter? 0).any fun m => !m.isFull) = true) :
    ∃ m, n.enter? 0 = some m ∧ m.isFull = false := by
  obtain ⟨m, hm, hroom⟩ := (Option.any_eq_true _ _).1 h
  exact ⟨m, hm, by simpa using hroom⟩

mutual

/-- Where there is place for it, a condition is read back. -/
theorem readAt_toValue : ∀ (n : Nesting) (c : Condition), c.fits n = true → readAt n c.toValue = .good c
  | n, .all cs, h => by
    obtain ⟨m, hm, hcs⟩ := (Option.any_eq_true _ _).1 h
    exact readAt_good ["operator", "conditions"] rfl (by decide) rfl rfl hm
      (seqLeft_good (map_good _ (optional_good rfl (readItems_toValues m cs hcs 0))) rfl)
  | n, .any cs, h => by
    obtain ⟨m, hm, hcs⟩ := (Option.any_eq_true _ _).1 h
    exact readAt_good ["operator", "conditions"] rfl (by decide) rfl rfl hm
      (seqLeft_good (map_good _ (optional_good rfl (readItems_toValues m cs hcs 0))) rfl)
  | n, .not d, h => by
    obtain ⟨m, hm, hd⟩ := (Option.any_eq_true _ _).1 h
    exact readAt_good ["operator", "condition"] rfl (by decide) rfl rfl hm
      (seqLeft_good (map_good _ (required_good rfl (readAt_toValue m d hd))) rfl)
  | n, .prime v, h => by
    obtain ⟨m, hm⟩ := Option.isSome_iff_exists.1 h
    exact readAt_good ["operator", "value"] rfl (by decide) rfl rfl hm
      (seqLeft_good (map_good _ (required_good rfl v.read_toValue)) rfl)
  | n, .compare op l r, h => by
    obtain ⟨m, hm, hroom⟩ := exists_room h
    exact readAt_good ["operator", "left", "right"] rfl (by decide) rfl (choose_name op) (by rwa [rank_name])
      (seqLeft_good (seq_good (map_good _ (required_good rfl (l.readAt_toValue hroom)))
        (required_good rfl (r.readAt_toValue hroom))) rfl)
  | n, .between v l u, h => by
    obtain ⟨m, hm, hroom⟩ := exists_room h
    exact readAt_good ["operator", "value", "min", "max"] rfl (by decide) rfl rfl hm
      (seqLeft_good (seq_good (seq_good (map_good _ (required_good rfl (v.readAt_toValue hroom)))
        (required_good rfl (l.readAt_toValue hroom))) (required_good rfl (u.readAt_toValue hroom))) rfl)
  | n, .parity v p, h => by
    obtain ⟨m, hm, hroom⟩ := exists_room h
    exact readAt_good ["operator", "value", "parity"] rfl (by decide) rfl rfl hm
      (seqLeft_good (seq_good (map_good _ (required_good rfl (v.readAt_toValue hroom)))
        (required_good rfl (p.readAt_toValue hroom))) rfl)
  | n, .multipleOf v f, h => by
    obtain ⟨m, hm, hroom⟩ := exists_room h
    exact readAt_good ["operator", "value", "factor"] rfl (by decide) rfl rfl hm
      (seqLeft_good (seq_good (map_good _ (required_good rfl (v.readAt_toValue hroom)))
        (required_good rfl (f.readAt_toValue hroom))) rfl)
  | n, .inRegion d s, h => by
    obtain ⟨m, hm, hroom⟩ := exists_room h
    exact readAt_good ["operator", "direction", "size"] rfl (by decide) rfl rfl hm
      (seqLeft_good (seq_good (map_good _ (required_good rfl (d.readAt_toValue hroom)))
        (required_good rfl (s.readAt_toValue hroom))) rfl)

theorem readItems_toValues : ∀ (n : Nesting) (cs : List Condition), allFit n cs = true → ∀ k,
    readItems n k (toValues cs) = .good cs
  | _, [], _, _ => rfl
  | n, c :: cs, h, k => by
    rw [allFit, Bool.and_eq_true] at h
    rw [toValues, readItems]
    exact seq_good (map_good _ (Checked.under_eq_good.2 (readAt_toValue n c h.1)))
      (readItems_toValues n cs h.2 (k + 1))

end

theorem rereads_readAt (n : Nesting) : Rereads (readAt n) toValue :=
  fun v c h => readAt_toValue n c (fits_of_readAt n v h)

end Condition
end ShapePuzzle
