import Mathlib.Algebra.Group.Nat.Defs
import ShapePuzzle.Value.Text

/-!
# Which values can be written

A value can be written just when no integer in it has too many digits and its collections do not stand too deep
inside one another. Either of the two is what it stops with otherwise.
-/
namespace ShapePuzzle

/-- What writing a value may stop with. -/
def Fault.OfWriting : Fault → Prop
  | tooManyDigits | nestedTooDeep => True
  | _ => False

theorem Number.isShort_int_iff {n : Int} : (int n).isShort = true ↔ n.natAbs < 10 ^ longestNumeral := by
  simp only [isShort, decide_eq_true_eq]
  exact Nat.length_toDigits_le_iff (by decide) (by decide)

theorem Number.isShort_of_natAbs_le {n : Int} (h : n.natAbs ≤ 10) : (int n).isShort = true := by
  refine isShort_int_iff.2 (Nat.lt_of_le_of_lt h ?_)
  calc 10 = 10 ^ 1 := rfl
    _ < 10 ^ longestNumeral := Nat.pow_lt_pow_right (by decide) (by decide)

namespace Value

/-- What becomes of writing a value for which there is some room. -/
inductive Spelled (α : Type) (room nesting : Nat) (short : Bool) : Except Fault α → Prop
  | written (s : α) (hroom : nesting ≤ room) (hshort : short = true) : Spelled α room nesting short (.ok s)
  | tooLong (hlong : short = false) : Spelled α room nesting short (.error .tooManyDigits)
  | tooDeep (hdeep : room < nesting) : Spelled α room nesting short (.error .nestedTooDeep)

namespace Spelled
variable {α β : Type} {room nesting : Nat} {short : Bool} {x : Except Fault α}

/-- A collection has one room less for what it holds. -/
theorem enclose (f : α → β) (h : Spelled α room nesting short x) :
    Spelled β (room + 1) (nesting + 1) short (x.map f) := by
  cases h with
  | written s hroom hshort => exact .written (f s) (Nat.succ_le_succ hroom) hshort
  | tooLong hlong => exact .tooLong hlong
  | tooDeep hdeep => exact .tooDeep (Nat.succ_lt_succ hdeep)

/-- Of two parts the second is written only after the first. -/
theorem both {nesting' : Nat} {short' : Bool} {y : Except Fault (List β)} (f : α → β)
    (hx : Spelled α room nesting short x) (hy : Spelled (List β) room nesting' short' y) :
    Spelled (List β) room (max nesting nesting') (short && short') (do
      let s ← x
      return f s :: (← y)) := by
  cases hx with
  | written s hroom hshort =>
    cases hy with
    | written t hroom' hshort' =>
      exact .written (f s :: t) (Nat.max_le.2 ⟨hroom, hroom'⟩) (by rw [hshort, hshort']; rfl)
    | tooLong hlong => exact .tooLong (by rw [hlong, Bool.and_false])
    | tooDeep hdeep => exact .tooDeep (Nat.lt_of_lt_of_le hdeep (Nat.le_max_right _ _))
  | tooLong hlong => exact .tooLong (by rw [hlong, Bool.false_and])
  | tooDeep hdeep => exact .tooDeep (Nat.lt_of_lt_of_le hdeep (Nat.le_max_left _ _))

theorem exists_ok_iff (h : Spelled α room nesting short x) : (∃ s, x = .ok s) ↔ nesting ≤ room ∧ short = true := by
  cases h with
  | written s hroom hshort => exact ⟨fun _ => ⟨hroom, hshort⟩, fun _ => ⟨s, rfl⟩⟩
  | tooLong hlong => simp [hlong]
  | tooDeep hdeep => simp [Nat.not_le.2 hdeep]

theorem of_error {e : Fault} (h : Spelled α room nesting short x) (he : x = .error e) :
    (e = .tooManyDigits ∧ short = false) ∨ (e = .nestedTooDeep ∧ room < nesting) := by
  cases h with
  | written s hroom hshort => cases he
  | tooLong hlong =>
    cases he
    exact .inl ⟨rfl, hlong⟩
  | tooDeep hdeep =>
    cases he
    exact .inr ⟨rfl, hdeep⟩

end Spelled

mutual

theorem spelled : ∀ (v : Value) (room : Nat), Spelled String room v.nesting v.isShort (v.spell room)
  | .null, room | .bool _, room | .text _, room => by
    simp only [spell, nesting, isShort]
    exact .written _ (Nat.zero_le room) rfl
  | .number n, room => by
    simp only [spell, nesting, isShort, Number.text?]
    cases n.isShort with
    | true => exact .written _ (Nat.zero_le room) rfl
    | false => exact .tooLong rfl
  | .list _, 0 | .object _, 0 => by
    simp only [spell, nesting]
    exact .tooDeep (Nat.succ_pos _)
  | .list xs, room + 1 => by
    simp only [spell, nesting, isShort]
    exact (spelledItems xs room).enclose _
  | .object fs, room + 1 => by
    simp only [spell, nesting, isShort]
    exact (spelledFields fs room).enclose _

theorem spelledItems : ∀ (xs : List Value) (room : Nat),
    Spelled (List String) room (itemsNesting xs) (itemsAreShort xs) (spellItems room xs)
  | [], room => by
    simp only [spellItems, itemsNesting, itemsAreShort]
    exact .written [] (Nat.zero_le room) rfl
  | x :: xs, room => by
    simp only [spellItems, itemsNesting, itemsAreShort]
    exact (spelled x room).both id (spelledItems xs room)

theorem spelledFields : ∀ (fs : List (String × Value)) (room : Nat),
    Spelled (List String) room (fieldsNesting fs) (fieldsAreShort fs) (spellFields room fs)
  | [], room => by
    simp only [spellFields, fieldsNesting, fieldsAreShort]
    exact .written [] (Nat.zero_le room) rfl
  | (k, x) :: rest, room => by
    simp only [spellFields, fieldsNesting, fieldsAreShort]
    exact (spelled x room).both _ (spelledFields rest room)

end

variable {v : Value} {e : Fault}

theorem isWritable_iff : v.isWritable = true ↔ v.nesting ≤ deepestNesting ∧ v.isShort = true := by
  rw [isWritable, Bool.and_eq_true, decide_eq_true_eq]

theorem exists_quoted_iff : (∃ s, v.quoted = .ok s) ↔ v.isWritable = true :=
  (v.spelled deepestNesting).exists_ok_iff.trans isWritable_iff.symm

/-- A value that is nested no deeper than a document can only have an integer that is too long. -/
theorem quoted_cases (hv : v.nesting ≤ deepestNesting) :
    (v.isShort = true ∧ ∃ s, v.quoted = .ok s) ∨ (v.isShort = false ∧ v.quoted = .error .tooManyDigits) := by
  have hspelled : Spelled String deepestNesting v.nesting v.isShort v.quoted := v.spelled deepestNesting
  cases hquoted : v.quoted with
  | ok s => exact .inl ⟨(hspelled.exists_ok_iff.1 ⟨s, hquoted⟩).2, s, rfl⟩
  | error e =>
    rcases hspelled.of_error hquoted with ⟨rfl, hlong⟩ | ⟨-, hdeep⟩
    · exact .inr ⟨hlong, rfl⟩
    · exact absurd hv (Nat.not_le.2 hdeep)

theorem fieldsNesting_le_iff {fs : Fields Value} {n : Nat} : fieldsNesting fs ≤ n ↔ ∀ f ∈ fs, f.2.nesting ≤ n := by
  induction fs with
  | nil => simp [fieldsNesting]
  | cons f fs ih => rw [fieldsNesting, Nat.max_le, ih, List.forall_mem_cons]

theorem fieldsAreShort_iff {fs : Fields Value} : fieldsAreShort fs = true ↔ ∀ f ∈ fs, f.2.isShort = true := by
  induction fs with
  | nil => simp [fieldsAreShort]
  | cons f fs ih => rw [fieldsAreShort, Bool.and_eq_true, ih, List.forall_mem_cons]

/-- The fields of an object stand one level deeper. -/
theorem isWritable_object_iff {fs : Fields Value} : (Value.object fs).isWritable = true ↔
    ∀ f ∈ fs, f.2.nesting < deepestNesting ∧ f.2.isShort = true := by
  have hlevel : deepestNesting = (deepestNesting - 1) + 1 := rfl
  rw [isWritable_iff, nesting, isShort, hlevel, Nat.add_le_add_iff_right, fieldsNesting_le_iff, fieldsAreShort_iff]
  exact ⟨fun h f hf => ⟨Nat.lt_succ_of_le (h.1 f hf), h.2 f hf⟩,
    fun h => ⟨fun f hf => Nat.le_of_lt_succ (h f hf).1, fun f hf => (h f hf).2⟩⟩

theorem ofWriting_of_quoted (h : v.quoted = .error e) : e.OfWriting := by
  rcases (v.spelled deepestNesting).of_error h with ⟨rfl, -⟩ | ⟨rfl, -⟩ <;> trivial

end Value
end ShapePuzzle
