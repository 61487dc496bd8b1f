import Mathlib.Tactic.Ring
import ShapePuzzle.Number.Basic

/-!
# Integers beyond the binary64 numbers

An integer becomes a float before it meets one. That fails from `2 ^ 1024 - 2 ^ 970` on, where the largest finite
number and the next power of two are equally near and the power of two has the even last place.
-/
namespace ShapePuzzle
namespace Binary64

/-- A quotient is rounded to an even number or more from half a unit below it on, since a tie goes to it. -/
theorem le_roundDiv_iff {n d a : Nat} (hd : 0 < d) (ha : a % 2 = 0) (hpos : 0 < a) :
    a ≤ roundDiv n d ↔ 2 * (a * d) ≤ 2 * n + d := by
  have hn : d * (n / d) + n % d = n := Nat.div_add_mod n d
  have hr : n % d < d := Nat.mod_lt n hd
  unfold roundDiv
  generalize n / d = q at *
  generalize n % d = r at *
  rcases Nat.lt_trichotomy (q + 1) a with h | rfl | h
  · have hle : d * (q + 2) ≤ d * a := Nat.mul_le_mul_left d h
    have : d * (q + 2) = d * q + 2 * d := by ring
    constructor
    · intro hm
      dsimp only at hm
      split_ifs at hm <;> omega
    · intro hm
      rw [Nat.mul_comm a d] at hm
      omega
  · have hodd : q % 2 = 1 := by omega
    have : (q + 1) * d = d * q + d := by ring
    dsimp only
    split_ifs <;> omega
  · have hle : d * a ≤ d * q := Nat.mul_le_mul_left d (by omega)
    refine iff_of_true ?_ ?_
    · dsimp only
      split_ifs <;> omega
    · rw [Nat.mul_comm a d]
      omega

theorem leadingPlace_one {n : Nat} (hn : n ≠ 0) : leadingPlace n 1 = n.log2 := by
  have hle : 2 ^ n.log2 ≤ n := Nat.log2_self_le hn
  have hone : Nat.log2 1 = 0 := by decide
  simp only [leadingPlace, power, hone, Nat.pow_eq]
  simp [hle]

theorem roundDiv_le (n d : Nat) : roundDiv n d ≤ n / d + 1 := by
  unfold roundDiv
  dsimp only
  split_ifs <;> omega

theorem le_roundDiv (n d : Nat) : n / d ≤ roundDiv n d := by
  unfold roundDiv
  dsimp only
  split_ifs <;> omega

theorem roundDiv_one (n : Nat) : roundDiv n 1 = n := by
  simp [roundDiv, Nat.mod_one]

/-- With 53 binary places kept, an integer is rounded to a power of two or more just when it lies above it, or below it
by half of a last place at most. -/
theorem reaches_iff {n e b : Nat} (hlow : 2 ^ (e + 52) ≤ n) (hhigh : n < 2 ^ (e + 53)) :
    2 ^ (b + 54) ≤ roundDiv n (2 ^ e) * 2 ^ e ↔ 2 ^ (b + 54) - 2 ^ b ≤ n := by
  have hpos : 0 < 2 ^ e := Nat.two_pow_pos e
  have hunit : 0 < 2 ^ b := Nat.two_pow_pos b
  have hunits : 2 ^ (b + 54) = 2 ^ 54 * 2 ^ b := by ring
  -- Only where the last place kept is twice `2 ^ b` does rounding decide; below and above both sides are settled.
  rcases Nat.lt_trichotomy e (b + 1) with he | rfl | he
  · have hquot : n / 2 ^ e < 2 ^ 53 := by
      rw [Nat.div_lt_iff_lt_mul hpos, ← Nat.pow_add, Nat.add_comm]
      exact hhigh
    have htop : roundDiv n (2 ^ e) * 2 ^ e ≤ 2 ^ (e + 53) := by
      rw [Nat.pow_add, Nat.mul_comm (2 ^ e)]
      exact Nat.mul_le_mul_right _ ((roundDiv_le _ _).trans hquot)
    have hsmall : 2 ^ (e + 53) ≤ 2 ^ (b + 53) := Nat.pow_le_pow_right (by decide) (by omega)
    have hhalf : 2 ^ (b + 53) = 2 ^ 53 * 2 ^ b := by ring
    exact iff_of_false (by omega) (by omega)
  · rw [show b + 54 = 53 + (b + 1) by omega, Nat.pow_add, Nat.mul_le_mul_right_iff hpos,
      le_roundDiv_iff hpos (by decide) (by decide)]
    omega
  · have hquot : 2 ^ 52 ≤ n / 2 ^ e := by
      rw [Nat.le_div_iff_mul_le hpos, ← Nat.pow_add, Nat.add_comm]
      exact hlow
    have htop : 2 ^ (e + 52) ≤ roundDiv n (2 ^ e) * 2 ^ e := by
      rw [Nat.pow_add, Nat.mul_comm (2 ^ e)]
      exact Nat.mul_le_mul_right _ (hquot.trans (le_roundDiv _ _))
    have hlarge : 2 ^ (b + 54) ≤ 2 ^ (e + 52) := Nat.pow_le_pow_right (by decide) (by omega)
    exact iff_of_true (by omega) (by omega)

theorem roundFraction_eq_infinite_iff {negative : Bool} {n d : Nat} {p : Nat × Nat} (hp : 0 < p.2)
    (hplace : power (lastPlace n d) = p) :
    (∃ s, roundFraction negative n d = infinite s) ↔ 2 ^ 1024 * p.2 ≤ roundDiv (n * p.2) (d * p.1) * p.1 := by
  unfold roundFraction
  rw [hplace]
  generalize 1024 = last
  have hpos : 0 < 2 ^ last * p.2 := Nat.mul_pos (Nat.two_pow_pos last) hp
  rw [Nat.pow_eq]
  dsimp only
  generalize roundDiv (n * p.2) (d * p.1) = m
  by_cases hm : m = 0
  · subst hm
    cases negative <;> simp <;> omega
  · simp only [hm, ↓reduceIte]
    split_ifs with h
    · simp [h]
    · simp [h]

/-- The least integer that is nearer to `2 ^ 1024` than to every finite number, or as near. -/
def tooLarge : Nat := 2 ^ 1024 - 2 ^ 970

-- The exponents stay sums of this form below, so that no power is ever written out.
theorem limit_eq : 2 ^ 1024 = 2 ^ (970 + 54) := congrArg (HPow.hPow 2) rfl

theorem not_tooLarge {n b : Nat} (h : n < 2 ^ b) : ¬ 2 ^ (b + 54) ≤ n ∧ ¬ 2 ^ (b + 54) - 2 ^ b ≤ n := by
  have hunits : 2 ^ (b + 54) = 2 ^ 54 * 2 ^ b := by ring
  omega

theorem roundFraction_one_eq_infinite_iff {negative : Bool} {n : Nat} (hn : n ≠ 0) :
    (∃ s, roundFraction negative n 1 = infinite s) ↔ tooLarge ≤ n := by
  have hlow : 2 ^ n.log2 ≤ n := Nat.log2_self_le hn
  have hhigh : n < 2 ^ (n.log2 + 1) := Nat.lt_log2_self
  have hplace : lastPlace n 1 = (n.log2 : Int) - 52 := by
    unfold lastPlace
    rw [leadingPlace_one hn]
    omega
  have hsmall : n.log2 < 52 → ∀ b ≥ 52, n < 2 ^ b :=
    fun h b hb => hhigh.trans_le (Nat.pow_le_pow_right (by decide) (by omega))
  rw [tooLarge, limit_eq]
  rcases Nat.lt_or_ge n.log2 52 with h | h
  · have hpower : power (lastPlace n 1) = (1, 2 ^ (52 - n.log2)) := by
      unfold power
      rw [hplace, if_neg (by omega), Nat.pow_eq, show (-((n.log2 : Int) - 52)).toNat = 52 - n.log2 by omega]
    rw [roundFraction_eq_infinite_iff (Nat.two_pow_pos _) hpower, Nat.mul_one, Nat.mul_one, roundDiv_one,
      Nat.mul_le_mul_right_iff (Nat.two_pow_pos _), limit_eq]
    have hn970 := not_tooLarge (hsmall h 970 (by decide))
    exact iff_of_false hn970.1 hn970.2
  · have hpower : power (lastPlace n 1) = (2 ^ (n.log2 - 52), 1) := by
      unfold power
      rw [hplace, if_pos (by omega), Nat.pow_eq, show ((n.log2 : Int) - 52).toNat = n.log2 - 52 by omega]
    rw [roundFraction_eq_infinite_iff Nat.one_pos hpower, Nat.mul_one, Nat.mul_one, Nat.one_mul, limit_eq]
    exact reaches_iff (by rwa [Nat.sub_add_cancel h]) (by rwa [show n.log2 - 52 + 53 = n.log2 + 1 by omega])

theorem ofInt?_eq_none_iff {n : Int} : ofInt? n = none ↔ tooLarge ≤ n.natAbs := by
  have hround : ofInt? n = none ↔ ∃ s, round n = infinite s := by
    unfold ofInt?
    split
    · rename_i s h
      simp [h]
    · rename_i h
      simpa using h
  rw [hround]
  unfold round
  by_cases hn : n = 0
  · subst hn
    have hzero : ∀ b, ¬ 2 ^ (b + 54) - 2 ^ b ≤ 0 := fun b => (not_tooLarge (Nat.two_pow_pos b)).2
    rw [tooLarge, limit_eq, if_pos Int.cast_zero]
    exact iff_of_false (fun ⟨_, h⟩ => nomatch h) (hzero 970)
  · rw [if_neg (by exact_mod_cast hn)]
    exact roundFraction_one_eq_infinite_iff (Int.natAbs_ne_zero.2 hn)

end Binary64

namespace Number

/-- A float and an integer that is too large for a float. -/
def Apart : Number → Number → Prop
  | int n, float _ | float _, int n => Binary64.tooLarge ≤ n.natAbs
  | _, _ => False

theorem Division.ofFloats_ne_tooLarge (x y : Binary64) : Division.ofFloats x y ≠ .tooLarge := by
  unfold ofFloats
  repeat' split
  all_goals exact nofun

theorem divide_eq_tooLarge_iff {m n : Number} : m.divide n = .tooLarge ↔ m.Apart n := by
  cases m with
  | int m =>
    cases n with
    | int n =>
      refine iff_of_false ?_ not_false
      simp only [divide]
      split_ifs <;> exact nofun
    | float y =>
      simp only [divide, Apart, float?, ← Binary64.ofInt?_eq_none_iff]
      cases Binary64.ofInt? m with
      | none => simp
      | some x => simpa using Division.ofFloats_ne_tooLarge x y
  | float x =>
    cases n with
    | int n =>
      simp only [divide, Apart, float?, ← Binary64.ofInt?_eq_none_iff]
      cases Binary64.ofInt? n with
      | none => simp
      | some y => simpa using Division.ofFloats_ne_tooLarge x y
    | float y => exact iff_of_false (Division.ofFloats_ne_tooLarge x y) not_false

theorem sub?_eq_none_iff {m n : Number} : m.sub? n = none ↔ m.Apart n := by
  cases m <;> cases n <;> simp only [sub?, Apart, float?, ← Binary64.ofInt?_eq_none_iff]
  · simp
  · cases Binary64.ofInt? _ <;> simp
  · cases Binary64.ofInt? _ <;> simp
  · simp

end Number
end ShapePuzzle
