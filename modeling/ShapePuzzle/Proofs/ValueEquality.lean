import ShapePuzzle.Condition.Evaluation
import Mathlib.Tactic.ByContra

/-!
# Equality of values

Strict equality is finer than loose equality, and on the domains of the properties both are equality. No value
is loosely equal to two values of a domain, so something in a domain always differs from a given value. Integers
have their own order.
-/
namespace ShapePuzzle

namespace Number

theorem equals_int_int {m n : Int} : (int m).equals (int n) = true ↔ m = n := by
  simp [equals, compare?]

theorem place_compare_eq {p q : Place} (h : p.compare q = .eq) : p = q := by
  cases p with
  | bottom =>
    cases q with
    | bottom => rfl
    | «at» y => cases h
    | top => cases h
  | top =>
    cases q with
    | top => rfl
    | bottom => cases h
    | «at» y => cases h
  | «at» x =>
    cases q with
    | bottom => cases h
    | top => cases h
    | «at» y =>
      simp only [Place.compare] at h
      split at h
      · cases h
      · split at h
        · rename_i hxy
          rw [hxy]
        · cases h

/-- No number equals two integers. -/
theorem int_unique {m k : Int} {n : Number} (hm : (int m).equals n = true) (hk : (int k).equals n = true) :
    m = k := by
  cases n with
  | int n => rw [equals_int_int.1 hm, equals_int_int.1 hk]
  | float x =>
    simp only [equals, compare?, place?, beq_iff_eq] at hm hk
    cases hx : x.place? with
    | none => simp [hx] at hm
    | some p =>
      simp only [hx, Option.some.injEq] at hm hk
      have hmk := (place_compare_eq hm).trans (place_compare_eq hk).symm
      simpa using hmk

end Number

namespace Value

attribute [local simp] same sameItem strictlyEquals

theorem same_of_strictlyEquals {a b : Value} (h : a.strictlyEquals b = true) : a.same b = true := by
  cases a <;> cases b <;> simp only [strictlyEquals, Bool.false_eq_true] at h <;>
    simp_all [number?, Number.equals_int_int]

theorem text_strictlyEquals {s t : String} : (text s).strictlyEquals (text t) = true ↔ s = t := by
  simp

theorem int_strictlyEquals {m n : Int} : (int m).strictlyEquals (int n) = true ↔ m = n := by
  simp [Number.equals_int_int]

theorem text_sameItem {s : String} {v : Value} : (text s).sameItem v = true ↔ v = text s := by
  cases v <;> simp [isNaN, eq_comm]

theorem int_sameItem_unique {m k : Int} {v : Value} (hm : (int m).sameItem v = true)
    (hk : (int k).sameItem v = true) : m = k := by
  have hnum : ∀ {i : Int}, (int i).sameItem v = true → ∃ n, v.number? = some n ∧ (Number.int i).equals n = true := by
    intro i hi
    simp only [sameItem, same, isNaN, Number.isNaN, Bool.false_and, Bool.or_false] at hi
    cases hv : v.number? with
    | none => simp [hv] at hi
    | some n =>
      simp only [hv] at hi
      exact ⟨n, rfl, hi⟩
  obtain ⟨n, hn, hmn⟩ := hnum hm
  obtain ⟨n', hn', hkn⟩ := hnum hk
  rw [hn, Option.some.injEq] at hn'
  subst hn'
  exact Number.int_unique hmn hkn

theorem int_sameItem_int {m n : Int} : (int m).sameItem (int n) = true ↔ m = n := by
  simp [number?, isNaN, Number.isNaN, Number.equals_int_int]

theorem ordered?_int (accept : Ordering → Bool) (m n : Int) :
    ordered? accept (int m) (int n) = some (accept (compare m n)) := by
  simp [ordered?, number?, Number.compare?]

theorem int_gt? (m n : Int) : (int m).gt? (int n) = some (decide (n < m)) := by
  rw [gt?, ordered?_int, Option.some_inj, Bool.eq_iff_iff, decide_eq_true_eq, Ordering.isGT_iff_eq_gt,
    Int.compare_eq_gt]

theorem int_lt? (m n : Int) : (int m).lt? (int n) = some (decide (m < n)) := by
  rw [lt?, ordered?_int, Option.some_inj, Bool.eq_iff_iff, decide_eq_true_eq, Ordering.isLT_iff_eq_lt,
    Int.compare_eq_lt]

theorem int_le? (m n : Int) : (int m).le? (int n) = some (decide (m ≤ n)) := by
  rw [le?, ordered?_int, Option.some_inj, Bool.eq_iff_iff, decide_eq_true_eq, Int.isLE_compare]

theorem int_ge? (m n : Int) : (int m).ge? (int n) = some (decide (n ≤ m)) := by
  rw [ge?, ordered?_int, Option.some_inj, Bool.eq_iff_iff, decide_eq_true_eq, Int.isGE_compare]

theorem isIn_singleton {v w : Value} : v.isIn [w] = v.sameItem w := by
  simp [isIn]

theorem strictlyEquals_of_isIn_eq_false {v w : Value} (h : v.isIn [w] = false) : v.strictlyEquals w = false := by
  by_contra heq
  have hsame := same_of_strictlyEquals (Bool.of_not_eq_false heq)
  rw [isIn_singleton, sameItem, hsame] at h
  cases h

end Value

namespace Comparison

theorem test_greaterThan_int (m n : Int) : greaterThan.test (.int m) (.int n) = .ok (decide (n < m)) := by
  simp [test, test?, Value.int_gt?]

theorem test_lessThan_int (m n : Int) : lessThan.test (.int m) (.int n) = .ok (decide (m < n)) := by
  simp [test, test?, Value.int_lt?]

/-- Any comparison can be made between integers. -/
theorem exists_test_int (op : Comparison) (m n : Int) : ∃ b, op.test (.int m) (.int n) = .ok b := by
  cases op <;> simp [test, test?, Value.int_gt?, Value.int_lt?, Value.int_ge?, Value.int_le?]

end Comparison

theorem mem_numbers {n : Int} : n ∈ numbers ↔ 1 ≤ n ∧ n ≤ 10 := by
  simp only [numbers, List.mem_cons, List.not_mem_nil, or_false]
  omega

namespace Property

theorem mem_domain_shape {v : Value} : v ∈ domain .shape ↔ ∃ s ∈ shapes, v = .text s := by
  simp [domain, eq_comm]

theorem mem_domain_color {v : Value} : v ∈ domain .color ↔ ∃ s ∈ colors, v = .text s := by
  simp [domain, eq_comm]

theorem mem_domain_number {v : Value} : v ∈ domain .number ↔ ∃ n ∈ numbers, v = .int n := by
  simp [domain, eq_comm]

/-- Loose equality of a value of a domain with another is equality. -/
theorem sameItem_iff_of_mem_domain {p : Property} {v w : Value} (hv : v ∈ p.domain) (hw : w ∈ p.domain) :
    v.sameItem w = true ↔ v = w := by
  cases p with
  | shape =>
    obtain ⟨s, -, rfl⟩ := mem_domain_shape.1 hv
    rw [Value.text_sameItem, eq_comm]
  | color =>
    obtain ⟨s, -, rfl⟩ := mem_domain_color.1 hv
    rw [Value.text_sameItem, eq_comm]
  | number =>
    obtain ⟨m, -, rfl⟩ := mem_domain_number.1 hv
    obtain ⟨n, -, rfl⟩ := mem_domain_number.1 hw
    simp [Value.int_sameItem_int]

theorem strictlyEquals_iff_of_mem_domain {p : Property} {v w : Value} (hv : v ∈ p.domain) (hw : w ∈ p.domain) :
    v.strictlyEquals w = true ↔ v = w := by
  cases p with
  | shape =>
    obtain ⟨s, -, rfl⟩ := mem_domain_shape.1 hv
    obtain ⟨t, -, rfl⟩ := mem_domain_shape.1 hw
    simp [Value.text_strictlyEquals]
  | color =>
    obtain ⟨s, -, rfl⟩ := mem_domain_color.1 hv
    obtain ⟨t, -, rfl⟩ := mem_domain_color.1 hw
    simp [Value.text_strictlyEquals]
  | number =>
    obtain ⟨m, -, rfl⟩ := mem_domain_number.1 hv
    obtain ⟨n, -, rfl⟩ := mem_domain_number.1 hw
    simp [Value.int_strictlyEquals]

theorem isIn_iff_of_mem_domain {p : Property} {v : Value} {vs : List Value} (hv : v ∈ p.domain)
    (hvs : ∀ w ∈ vs, w ∈ p.domain) : v.isIn vs = true ↔ v ∈ vs := by
  simp only [Value.isIn, List.any_eq_true]
  constructor
  · rintro ⟨w, hw, hsame⟩
    rw [(sameItem_iff_of_mem_domain hv (hvs w hw)).1 hsame]
    exact hw
  · intro hmem
    exact ⟨v, hmem, (sameItem_iff_of_mem_domain hv hv).2 rfl⟩

/-- Whatever a value is, the domain of a property has a value that is not loosely equal to it. -/
theorem exists_other (p : Property) (w : Value) : ∃ v ∈ p.domain, v.isIn [w] = false := by
  by_contra hall
  simp only [not_exists, not_and, Bool.not_eq_false, Value.isIn_singleton] at hall
  cases p with
  | shape =>
    have h₁ := Value.text_sameItem.1 (hall _ (mem_domain_shape.2 ⟨"circle", by decide, rfl⟩))
    have h₂ := Value.text_sameItem.1 (hall _ (mem_domain_shape.2 ⟨"square", by decide, rfl⟩))
    exact absurd (h₁.symm.trans h₂) (by simp)
  | color =>
    have h₁ := Value.text_sameItem.1 (hall _ (mem_domain_color.2 ⟨"#ff82a9", by decide, rfl⟩))
    have h₂ := Value.text_sameItem.1 (hall _ (mem_domain_color.2 ⟨"#7ed957", by decide, rfl⟩))
    exact absurd (h₁.symm.trans h₂) (by simp)
  | number =>
    have h₁ := hall _ (mem_domain_number.2 ⟨1, by decide, rfl⟩)
    have h₂ := hall _ (mem_domain_number.2 ⟨2, by decide, rfl⟩)
    exact absurd (Value.int_sameItem_unique h₁ h₂) (by decide)

end Property
end ShapePuzzle
