import ShapePuzzle.Schema.Template

/-!
# Readings that succeed

A reading that succeeds has succeeded in all its parts, and one whose parts succeed does so too. What is read from a
document may be written down again; a reading takes up its own dump if it gives back from there what it was made of.
-/
namespace ShapePuzzle
variable {α β : Type}

namespace Checked
variable {f : α → β} {x : Checked α} {y : Checked β}

theorem map_eq_good {b : β} : f <$> x = .good b ↔ ∃ a, x = .good a ∧ f a = b := by
  cases x with
  | good a => simp [Functor.map, map]
  | bad is => simp [Functor.map, map]

theorem seq_eq_good {g : Checked (α → β)} {b : β} :
    g <*> x = .good b ↔ ∃ f a, g = .good f ∧ x = .good a ∧ f a = b := by
  cases g with
  | good f => cases x <;> simp [Seq.seq, apply, map]
  | bad is => cases x <;> simp [Seq.seq, apply]

theorem seqLeft_eq_good {a : α} : x <* y = .good a ↔ x = .good a ∧ ∃ b, y = .good b := by
  change Function.const β <$> x <*> y = .good a ↔ _
  simp only [seq_eq_good, map_eq_good]
  constructor
  · rintro ⟨_, b, ⟨a, ha, rfl⟩, hb, rfl⟩
    exact ⟨ha, b, hb⟩
  · rintro ⟨ha, b, hb⟩
    exact ⟨_, b, ⟨a, ha, rfl⟩, hb, rfl⟩

@[simp] theorem under_eq_good {s : Step} {a : α} : x.under s = .good a ↔ x = .good a := by
  cases x <;> simp [under]

theorem andThen_eq_good {g : α → Checked β} {b : β} : x.andThen g = .good b ↔ ∃ a, x = .good a ∧ g a = .good b := by
  cases x <;> simp [andThen]

theorem map_good (f : α → β) {a : α} (h : x = .good a) : f <$> x = .good (f a) :=
  map_eq_good.2 ⟨a, h, rfl⟩

theorem seq_good {g : Checked (α → β)} {a : α} (hg : g = .good f) (hx : x = .good a) : g <*> x = .good (f a) :=
  seq_eq_good.2 ⟨f, a, hg, hx, rfl⟩

theorem seqLeft_good {a : α} {b : β} (hx : x = .good a) (hy : y = .good b) : x <* y = .good a :=
  seqLeft_eq_good.2 ⟨hx, b, hy⟩

end Checked

namespace Fields
variable {fs : Fields β} {n : FieldName} {read : β → Checked α} {a d : α} {k : String} {b : β}

theorem mem_of_find? (h : fs.find? n = some (k, b)) : (k, b) ∈ fs := by
  unfold find? at h
  cases hname : fs.lookup n.name with
  | some c =>
    rw [hname] at h
    cases h
    exact mem_of_lookup hname
  | none =>
    rw [hname] at h
    obtain ⟨c, hother, ⟨⟩⟩ := Option.map_eq_some_iff.1 h
    exact mem_of_lookup hother

theorem exists_of_required (h : fs.required n read = .good a) : ∃ f ∈ fs, read f.2 = .good a := by
  unfold required at h
  cases hfind : fs.find? n with
  | none => simp [hfind] at h
  | some f =>
    rw [hfind] at h
    exact ⟨f, mem_of_find? hfind, Checked.under_eq_good.1 h⟩

theorem exists_of_optional (h : fs.optional n d read = .good a) : a = d ∨ ∃ f ∈ fs, read f.2 = .good a := by
  unfold optional at h
  cases hfind : fs.find? n with
  | none =>
    rw [hfind] at h
    cases h
    exact .inl rfl
  | some f =>
    rw [hfind] at h
    exact .inr ⟨f, mem_of_find? hfind, Checked.under_eq_good.1 h⟩

theorem required_good (hfind : fs.find? n = some (k, b)) (h : read b = .good a) : fs.required n read = .good a := by
  unfold required
  rw [hfind]
  exact Checked.under_eq_good.2 h

theorem optional_good (hfind : fs.find? n = some (k, b)) (h : read b = .good a) : fs.optional n d read = .good a := by
  unfold optional
  rw [hfind]
  exact Checked.under_eq_good.2 h

theorem legible_eq_good {x : Checked α} : fs.legible x = .good a ↔ fs.keys.any hasHalf = false ∧ x = .good a := by
  unfold legible
  cases fs.keys.any hasHalf <;> simp [Checked.issue]

end Fields

namespace Value
variable {tag t : String} {variants : Fields (Fields Value → Checked α)} {read : Fields Value → Checked α}
  {fs : Fields Value} {a : α}

theorem exists_of_asVariant {v : Value} (h : asVariant tag variants v = .good a) :
    ∃ fs t read, (t, read) ∈ variants ∧ read fs = .good a := by
  unfold asVariant at h
  split at h
  · rename_i fs
    split at h
    · cases h
    · rename_i t _
      cases hread : variants.lookup t with
      | none =>
        rw [hread] at h
        cases h
      | some read =>
        rw [hread] at h
        exact ⟨fs, t, read, Fields.mem_of_lookup hread, (Fields.legible_eq_good.1 (Checked.under_eq_good.1 h)).2⟩
    · cases h
  · cases h

/-- The names of the fields are given, since they alone have to be looked through. -/
theorem asVariant_good (names : List String) (hnames : Fields.keys fs = names) (hplain : names.any hasHalf = false)
    (htag : fs.lookup tag = some (.text t)) (hvariant : variants.lookup t = some read) (h : read fs = .good a) :
    asVariant tag variants (.object fs) = .good a := by
  simp only [asVariant, htag, hvariant]
  exact Checked.under_eq_good.2 (Fields.legible_eq_good.2 ⟨hnames ▸ hplain, h⟩)

theorem exists_of_asClosedRecord {v : Value} (h : asClosedRecord read v = .good a) : ∃ fs, read fs = .good a := by
  cases v with
  | object fs => exact ⟨fs, (Fields.legible_eq_good.1 h).2⟩
  | _ => cases h

theorem asClosedRecord_good (names : List String) (hnames : Fields.keys fs = names)
    (hplain : names.any hasHalf = false) (h : read fs = .good a) : asClosedRecord read (.object fs) = .good a :=
  Fields.legible_eq_good.2 ⟨hnames ▸ hplain, h⟩

end Value

/-- A template that is read is assembled from the fields of an object, and its references are in order. -/
theorem Template.assembled_of_read {v : Value} {t : Template} (h : Template.read v = .good t) :
    ∃ fs, v = .object fs ∧ assemble fs = .good t ∧ t.checkReferences = .ok () := by
  cases v with
  | object fs =>
    obtain ⟨u, hassembled, hchecked⟩ := Checked.andThen_eq_good.1 (Fields.legible_eq_good.1 h).2
    cases hreferences : u.checkReferences with
    | ok _ =>
      simp only [hreferences, Checked.good.injEq] at hchecked
      exact ⟨fs, rfl, hchecked ▸ hassembled, hchecked ▸ hreferences⟩
    | error d =>
      rw [hreferences] at hchecked
      cases hchecked
  | _ => cases h

/-- What has been read is read again from what is written for it. -/
def Rereads (read : Value → Checked α) (write : α → Value) : Prop :=
  ∀ ⦃v a⦄, read v = .good a → read (write a) = .good a

namespace Rereads
variable {read : Value → Checked α} {write : α → Value} {fs : Fields Value} {n : FieldName} {a d : α}

theorem of_required (h : Rereads read write) (ha : fs.required n read = .good a) : read (write a) = .good a := by
  obtain ⟨f, -, hf⟩ := Fields.exists_of_required ha
  exact h hf

/-- A default has to be readable itself. -/
theorem of_optional (h : Rereads read write) (hd : read (write d) = .good d) (ha : fs.optional n d read = .good a) :
    read (write a) = .good a := by
  rcases Fields.exists_of_optional ha with rfl | ⟨f, -, hf⟩
  · exact hd
  · exact h hf

theorem asText : Rereads Value.asText .text := fun _ _ _ => rfl

theorem good : Rereads Checked.good (fun v => v) := fun _ _ _ => rfl

/-- What is written for a value must not look like nothing. -/
theorem nullable (h : Rereads read write) (hnull : ∀ a, write a ≠ .null) :
    Rereads (Value.nullable read) (optionalValue write) := by
  have hsome : ∀ w : Value, w ≠ .null → Value.nullable read w = some <$> read w := by
    intro w hw
    cases w with
    | null => exact absurd rfl hw
    | _ => rfl
  intro v a? ha
  cases a? with
  | none => rfl
  | some a =>
    by_cases hv : v = .null
    · subst hv
      cases ha
    · rw [hsome v hv] at ha
      obtain ⟨_, ha, ⟨⟩⟩ := Checked.map_eq_good.1 ha
      exact (hsome _ (hnull a)).trans (Checked.map_good some (h ha))

private theorem asItems (h : Rereads read write) {vs : List Value} {as : List α} {k : Nat}
    (ha : Value.asItems read k vs = .good as) (j : Nat) : Value.asItems read j (as.map write) = .good as := by
  induction vs generalizing k as j with
  | nil =>
    cases ha
    rfl
  | cons v vs ih =>
    obtain ⟨_, as, hcons, hrest, rfl⟩ := Checked.seq_eq_good.1 ha
    obtain ⟨a, hfirst, rfl⟩ := Checked.map_eq_good.1 hcons
    exact Checked.seq_good (Checked.map_good _ (Checked.under_eq_good.2 (h (Checked.under_eq_good.1 hfirst))))
      (ih hrest (j + 1))

theorem asList (h : Rereads read write) : Rereads (Value.asList read) fun as => .list (as.map write) := by
  intro v as ha
  cases v with
  | list vs => exact h.asItems ha 0
  | _ => cases ha

theorem asNonempty (h : Rereads read write) : Rereads (Value.asNonempty read) fun as => .list (as.map write) := by
  intro v as ha
  have hlist : Value.asList read v = .good as := by
    unfold Value.asNonempty at ha
    split at ha
    · cases ha
    · exact ha
  have hagain := h.asList hlist
  cases as with
  | nil =>
    cases v with
    | list vs =>
      cases vs with
      | nil => cases ha
      | cons v vs =>
        obtain ⟨_, _, hfirst, -, hcons⟩ := Checked.seq_eq_good.1 hlist
        obtain ⟨a, -, rfl⟩ := Checked.map_eq_good.1 hfirst
        cases hcons
    | _ => cases hlist
  | cons a as => exact hagain

private theorem asEntries (h : Rereads read write) {fs : List (String × Value)} {as : Fields α}
    (ha : Value.asEntries read fs = .good as) :
    Value.asEntries read (as.map fun (k, a) => (k, write a)) = .good as := by
  induction fs generalizing as with
  | nil =>
    cases ha
    rfl
  | cons f fs ih =>
    obtain ⟨_, as, hcons, hrest, rfl⟩ := Checked.seq_eq_good.1 ha
    obtain ⟨a, hfirst, rfl⟩ := Checked.map_eq_good.1 hcons
    exact Checked.seq_good (Checked.map_good _ (Checked.under_eq_good.2 (h (Checked.under_eq_good.1 hfirst))))
      (ih hrest)

theorem asFields (h : Rereads read write) :
    Rereads (Value.asFields read) fun as => .object (as.map fun (k, a) => (k, write a)) := by
  intro v as ha
  cases v with
  | object fs => exact h.asEntries ha
  | _ => cases ha

end Rereads

/-- What was read and written down is read as the same and is written down without a change. -/
structure DumpsSettle (read : Value → Checked α) (write : α → Value) : Prop where
  again : Rereads read write
  unchanged : ∀ ⦃v w⦄, write <$> read v = .good w → write <$> read w = .good w

theorem Rereads.dumpsSettle {read : Value → Checked α} {write : α → Value} (h : Rereads read write) :
    DumpsSettle read write := by
  refine ⟨h, fun v w hw => ?_⟩
  obtain ⟨a, ha, rfl⟩ := Checked.map_eq_good.1 hw
  exact Checked.map_good write (h ha)

end ShapePuzzle
