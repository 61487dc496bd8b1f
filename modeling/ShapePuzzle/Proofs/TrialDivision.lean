import Mathlib.Data.Nat.Prime.Basic
import ShapePuzzle.Condition.Evaluation

/-!
# Trial division

The divisors that are tried are the odd numbers from three up to the square root. An odd number that none of them
divides is prime, since the least factor of a composite number is at most its square root.
-/
namespace ShapePuzzle
variable {n d passes : Nat} {b : Bool}

/-- Trying `d`, `d + 2`, … as divisors of `n` ends after a number of passes, with a verdict. -/
inductive Trials (n : Nat) : Nat → Nat → Bool → Prop
  | beyondRoot {d : Nat} (h : n < d * d) : Trials n d 0 true
  | divided {d : Nat} (h : d * d ≤ n) (hd : d ∣ n) : Trials n d 0 false
  | passed {d passes : Nat} {b : Bool} (h : d * d ≤ n) (hd : ¬ d ∣ n) (rest : Trials n (d + 2) passes b) :
      Trials n d (passes + 1) b

namespace Trials

/-- A divisor that is passed is at most the square root. -/
theorem mul_self_le (h : Trials n d passes b) {j : Nat} (hj : j < passes) : (d + 2 * j) * (d + 2 * j) ≤ n := by
  induction h generalizing j with
  | beyondRoot | divided => exact absurd hj (Nat.not_lt_zero j)
  | @passed d passes b h _ _ ih =>
    cases j with
    | zero => exact h
    | succ j =>
      have hshift : d + 2 * (j + 1) = d + 2 + 2 * j := by omega
      rw [hshift]
      exact ih (by omega)

theorem le_sqrt (h : Trials n d passes b) (hd : 0 < d) : passes ≤ n.sqrt := by
  cases passes with
  | zero => exact Nat.zero_le _
  | succ k =>
    have hlast : d + 2 * k ≤ n.sqrt := Nat.le_sqrt.2 (h.mul_self_le k.lt_succ_self)
    omega

/-- The verdict is on all divisors from the first one on, not only on those that were tried. -/
theorem eq_true_iff (h : Trials n d passes b) :
    b = true ↔ ∀ j, (d + 2 * j) * (d + 2 * j) ≤ n → ¬ d + 2 * j ∣ n := by
  induction h with
  | @beyondRoot d h =>
    refine iff_of_true rfl fun j hj => ?_
    have hle : d * d ≤ (d + 2 * j) * (d + 2 * j) := Nat.mul_le_mul (by omega) (by omega)
    omega
  | divided h hd => exact iff_of_false Bool.false_ne_true fun hall => hall 0 h hd
  | @passed d passes b h hd _ ih =>
    rw [ih]
    have hshift : ∀ j, d + 2 * (j + 1) = d + 2 + 2 * j := fun j => by omega
    constructor
    · intro hrest j
      cases j with
      | zero => exact fun _ => hd
      | succ j => exact hshift j ▸ hrest j
    · exact fun hall j => hshift j ▸ hall (j + 1)

end Trials

/-- The trials come to an end, with the verdict that is returned. -/
theorem exists_trials (n d : Nat) (hd : 0 < d) : ∃ passes, Trials n d passes (noDivisorFrom n d) := by
  fun_induction noDivisorFrom n d with
  | case1 d h hmod => exact ⟨0, .divided h.2 (Nat.dvd_of_mod_eq_zero hmod)⟩
  | case2 d h hmod ih =>
    obtain ⟨passes, hrest⟩ := ih (by omega)
    exact ⟨passes + 1, .passed h.2 (fun hdvd => hmod (Nat.mod_eq_zero_of_dvd hdvd)) hrest⟩
  | case3 d h => exact ⟨0, .beyondRoot (by omega)⟩

theorem prime_of_no_odd_divisor (hn : 2 ≤ n) (hodd : ¬ 2 ∣ n)
    (h : ∀ j, (3 + 2 * j) * (3 + 2 * j) ≤ n → ¬ 3 + 2 * j ∣ n) : n.Prime := by
  by_contra hcomposite
  have hdvd : n.minFac ∣ n := n.minFac_dvd
  have htwo : 2 ≤ n.minFac := (Nat.minFac_prime (by omega)).two_le
  have hroot : n.minFac * n.minFac ≤ n := by
    simpa [sq] using Nat.minFac_sq_le_self (by omega) hcomposite
  have hnot : ¬ 2 ∣ n.minFac := fun htwo => hodd (htwo.trans hdvd)
  obtain ⟨j, hj⟩ : ∃ j, n.minFac = 3 + 2 * j := ⟨(n.minFac - 3) / 2, by omega⟩
  rw [hj] at hdvd hroot
  exact h j hroot hdvd

theorem noDivisorFrom_three_iff (hn : 2 ≤ n) (hodd : ¬ 2 ∣ n) : noDivisorFrom n 3 = true ↔ n.Prime := by
  obtain ⟨passes, htrials⟩ := exists_trials n 3 (by decide)
  rw [htrials.eq_true_iff]
  refine ⟨prime_of_no_odd_divisor hn hodd, fun hprime j hj hdvd => ?_⟩
  rcases hprime.eq_one_or_self_of_dvd _ hdvd with hone | hself
  · omega
  · rw [hself] at hj
    have hle : 2 * n ≤ n * n := Nat.mul_le_mul_right n hn
    omega

theorem isPrime_natCast_iff (n : Nat) : isPrime n = true ↔ n.Prime := by
  unfold isPrime
  split
  · exact iff_of_false Bool.false_ne_true fun hprime => absurd hprime.two_le (by omega)
  · split
    · have htwo : n = 2 := by omega
      exact iff_of_true rfl (htwo ▸ Nat.prime_two)
    · split
      · refine iff_of_false Bool.false_ne_true fun hprime => ?_
        rcases hprime.eq_one_or_self_of_dvd 2 (by omega) with h | h <;> omega
      · rw [Int.toNat_natCast]
        exact noDivisorFrom_three_iff (by omega) (by omega)

/-- Asking whether an integer is prime always has an answer, within as many passes as its square root, and the answer
is yes just for the primes. -/
theorem isPrime_eq_true_iff (n : Int) :
    (∃ passes, passes ≤ n.toNat.sqrt ∧ Trials n.toNat 3 passes (noDivisorFrom n.toNat 3)) ∧
      ∃ b, (Value.int n).isPrime = .ok b ∧ (b = true ↔ ∃ p : Nat, p.Prime ∧ (p : Int) = n) := by
  constructor
  · obtain ⟨passes, htrials⟩ := exists_trials n.toNat 3 (by decide)
    exact ⟨passes, htrials.le_sqrt (by decide), htrials⟩
  refine ⟨isPrime n, rfl, ?_⟩
  rcases Int.lt_or_le n 0 with hneg | hnonneg
  · refine iff_of_false ?_ ?_
    · have hsmall : n < 2 := by omega
      simp [isPrime, hsmall]
    · rintro ⟨p, -, rfl⟩
      omega
  · obtain ⟨m, rfl⟩ := Int.eq_ofNat_of_zero_le hnonneg
    refine (isPrime_natCast_iff m).trans ⟨fun hprime => ⟨m, hprime, rfl⟩, ?_⟩
    rintro ⟨p, hprime, hp⟩
    exact Int.natCast_inj.1 hp ▸ hprime

end ShapePuzzle
