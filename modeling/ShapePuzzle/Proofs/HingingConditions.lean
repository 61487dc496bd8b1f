import ShapePuzzle.Bank.Shorthand
import ShapePuzzle.Proofs.ForcingSucceeds

/-!
# Conditions that hinge on one property

Such a condition can be made to hold and to fail by what the property is given, so forcing it always succeeds,
and so does forcing two of them on different properties at once. The conditions on a detail and on the number of
a cell are of this kind.
-/
namespace ShapePuzzle

namespace Condition
variable {details : Details} {size : Int} {c c' : Condition} {cell : Cell} {p q : Property}

/-- The condition reads one property, some value of it meets the condition and some value does not. -/
structure HingesOn (details : Details) (size : Int) (p : Property) (c : Condition) : Prop where
  tame : c.Tame details size
  reads : ∀ q, c.reads q = true → q = p
  met : ∃ v ∈ p.domain, ∀ cell : Cell, cell.Ordinary →
    c.evaluate ((cell.set p v).context details size) = .ok true
  missed : ∃ v ∈ p.domain, ∀ cell : Cell, cell.Ordinary →
    c.evaluate ((cell.set p v).context details size) = .ok false

theorem HingesOn.not (h : c.HingesOn details size p) : (Condition.not c).HingesOn details size p where
  tame := h.tame
  reads := h.reads
  met := by
    obtain ⟨v, hv, hfalse⟩ := h.missed
    exact ⟨v, hv, fun cell hcell => by simp only [evaluate, hfalse cell hcell]; rfl⟩
  missed := by
    obtain ⟨v, hv, htrue⟩ := h.met
    exact ⟨v, hv, fun cell hcell => by simp only [evaluate, htrue cell hcell]; rfl⟩

theorem HingesOn.takes (h : c.HingesOn details size p) (hcell : cell.Ordinary) : c.Takes details size cell := by
  obtain ⟨v, hv, htrue⟩ := h.met
  exact takes_of_single h.reads hcell hv (htrue cell hcell)

/-- Two conditions that hinge on different properties can be forced at once. -/
theorem HingesOn.takes_pair (h : c.HingesOn details size p) (h' : c'.HingesOn details size q) (hpq : q ≠ p)
    (hcell : cell.Ordinary) : (Condition.all [c, c']).Takes details size cell := by
  refine takes_all ?_ ?_ hcell
  · intro d hd e he hpos
    rcases List.mem_cons.1 hd with rfl | hd
    · exact h.takes he
    · obtain rfl := List.mem_singleton.1 hd
      exact h'.takes he
  · refine List.pairwise_pair.2 fun x hx => Bool.eq_false_iff.2 fun hread => hpq ?_
    rw [← h'.reads x hx, ← h.reads x hread]

/-- A condition that hinges on a property and one that holds anyhow can be forced at once. -/
theorem HingesOn.takes_with (h : c.HingesOn details size p) (hreads : ∀ x, c'.reads x = false)
    (hholds : ∀ d : Cell, d.position = cell.position → c'.evaluate (d.context details size) = .ok true)
    (hcell : cell.Ordinary) : (Condition.all [c, c']).Takes details size cell := by
  refine takes_all ?_ ?_ hcell
  · intro d hd e he hpos
    rcases List.mem_cons.1 hd with rfl | hd
    · exact h.takes he
    · obtain rfl := List.mem_singleton.1 hd
      exact takes_of_evaluate (hholds e hpos)
  · refine List.pairwise_pair.2 fun x hx => ?_
    rw [hreads x] at hx
    cases hx

section Leaves
variable {ctx : Context} {l r low high : Ref} {v w : Value} {m n : Int}

theorem evaluateAll_cons {cs : List Condition} {b : Bool} (h : c.evaluate ctx = .ok b) :
    evaluateAll ctx (c :: cs) = if b then evaluateAll ctx cs else .ok false := by
  simp only [evaluateAll, h]
  rfl

theorem evaluateAny_cons {cs : List Condition} {b : Bool} (h : c.evaluate ctx = .ok b) :
    evaluateAny ctx (c :: cs) = if b then .ok true else evaluateAny ctx cs := by
  simp only [evaluateAny, h]
  rfl

theorem evaluate_not : (Condition.not c).evaluate ctx = (do return !(← c.evaluate ctx)) := by
  rw [evaluate]

theorem evaluate_compare {op : Comparison} (hl : l.resolve ctx = .ok v) (hr : r.resolve ctx = .ok w) :
    (Condition.compare op l r).evaluate ctx = op.test v w := by
  simp only [evaluate, hl, hr]
  rfl

theorem evaluate_equals (hl : l.resolve ctx = .ok v) (hr : r.resolve ctx = .ok w) :
    (Condition.compare .equals l r).evaluate ctx = .ok (v.strictlyEquals w) :=
  evaluate_compare hl hr

theorem evaluate_parity {word : String} (hl : l.resolve ctx = .ok (.int m))
    (hr : r.resolve ctx = .ok (.text word)) :
    (Condition.parity l r).evaluate ctx = .ok (if word = "even" then m % 2 = 0 else m % 2 ≠ 0) := by
  have hdivides : (Value.int m).divides (.ofLeaf "parity" [l, r]) .two = .ok (decide (m % 2 = 0)) := by
    by_cases h : m % 2 = 0 <;> simp [Value.divides, Value.two, Value.number?, Number.divide, h]
  have hsame : (Value.text word).same (.text "even") = decide (word = "even") := by simp [Value.same]
  simp only [evaluate, evaluateParity, hl, hr, hdivides, hsame, bind, Except.bind, pure, Except.pure]
  by_cases h : word = "even" <;> simp only [h, decide_true, decide_false, if_true, if_false, ne_eq,
    decide_not, Bool.false_eq_true]

theorem evaluate_multipleOf (hl : l.resolve ctx = .ok (.int m)) (hr : r.resolve ctx = .ok (.int n)) (hn : n ≠ 0) :
    (Condition.multipleOf l r).evaluate ctx = .ok (m % n = 0) := by
  have hdivides : (Value.int m).divides (.ofLeaf "multipleOf" [l, r]) (.int n) = .ok (decide (m % n = 0)) := by
    by_cases h : m % n = 0 <;> simp [Value.divides, Value.number?, Number.divide, h, hn]
  simp only [evaluate, evaluateMultiple, hl, hr]
  exact hdivides

theorem evaluate_prime (hl : l.resolve ctx = .ok (.int m)) :
    (Condition.prime l).evaluate ctx = .ok (isPrime m) := by
  simp only [evaluate, evaluatePrime, hl]
  rfl

theorem evaluate_between (hl : l.resolve ctx = .ok (.int m)) (hlow : low.resolve ctx = .ok (.int n)) {k : Int}
    (hhigh : high.resolve ctx = .ok (.int k)) :
    (Condition.between l low high).evaluate ctx = .ok (n ≤ m ∧ m ≤ k) := by
  simp only [evaluate, evaluateBetween, hl, hlow, hhigh]
  by_cases h : n ≤ m <;> simp [bind, Except.bind, pure, Except.pure, inOrder, Value.int_le?, h]

theorem evaluate_inRegion (hc : ctx.cell = some cell) (hl : l.resolve ctx = .ok v) (hr : r.resolve ctx = .ok w) :
    (Condition.inRegion l r).evaluate ctx = isInRegion cell.position v w ctx.size := by
  simp only [evaluate, evaluateRegion, hc, hl, hr]
  rfl

end Leaves

/-- What the condition says of a cell depends on its number alone. -/
def Asks (details : Details) (size : Int) (c : Condition) (f : Int → Bool) : Prop :=
  ∀ (cell : Cell) (m : Int), cell.number = .int m → c.evaluate (cell.context details size) = .ok (f m)

theorem Asks.settles {f : Int → Bool} (h : c.Asks details size f) : c.Settles details size := by
  intro cell hcell
  obtain ⟨m, -, hm⟩ := Property.mem_domain_number.1 (hcell .number)
  exact ⟨f m, h cell m hm⟩

theorem Asks.hingesOn {f : Int → Bool} (h : c.Asks details size f) (htame : c.Tame details size)
    (hreads : ∀ q, c.reads q = true → q = .number) (hmet : ∃ m ∈ numbers, f m = true)
    (hmissed : ∃ m ∈ numbers, f m = false) : c.HingesOn details size .number where
  tame := htame
  reads := hreads
  met := by
    obtain ⟨m, hm, hf⟩ := hmet
    exact ⟨.int m, Property.mem_domain_number.2 ⟨m, hm, rfl⟩, fun cell _ => hf ▸ h _ m rfl⟩
  missed := by
    obtain ⟨m, hm, hf⟩ := hmissed
    exact ⟨.int m, Property.mem_domain_number.2 ⟨m, hm, rfl⟩, fun cell _ => hf ▸ h _ m rfl⟩

open Shipped

theorem resolve_detail {ctx : Context} {k : String} {v : Value} (hk : ctx.details.lookup k = some v) :
    (detail k).resolve ctx = .ok v :=
  Details.find_eq_ok.2 hk

theorem resolve_number {m : Int} (hm : cell.number = .int m) :
    (own .number).resolve (cell.context details size) = .ok (.int m) :=
  congrArg Except.ok hm

theorem evaluate_isDetail {k : String} {w : Value} (hk : details.lookup k = some w) :
    (isDetail p k).evaluate (cell.context details size) = .ok ((cell.get p).strictlyEquals w) :=
  evaluate_equals rfl (resolve_detail hk)

/-- Whether a property of the cell is as a detail says. -/
theorem hingesOn_isDetail (size : Int) {k : String} {w : Value} (hk : details.lookup k = some w) (hw : w ∈ p.domain) :
    (isDetail p k).HingesOn details size p where
  tame := fun cell _ => ⟨_, evaluate_isDetail hk⟩
  reads := by
    intro q hq
    simpa [reads, Ref.reads, eq_comm] using hq
  met := by
    refine ⟨w, hw, fun cell _ => ?_⟩
    rw [evaluate_isDetail hk, Cell.get_set_self, (Property.strictlyEquals_iff_of_mem_domain hw hw).2 rfl]
  missed := by
    obtain ⟨v, hv, hother⟩ := p.exists_other w
    refine ⟨v, hv, fun cell _ => ?_⟩
    rw [evaluate_isDetail hk, Cell.get_set_self, Value.strictlyEquals_of_isIn_eq_false hother]

/-- A drawn comparison with a threshold inside the numbers holds of some numbers and not of others. -/
theorem exists_comparison {word : String} {t : Int} (hmem : word ∈ comparisonWords) (hlow : 2 ≤ t) (hhigh : t ≤ 9) :
    ∃ op, Comparison.ofValue (.text word) = .ok op ∧
      ∀ b, ∃ m ∈ numbers, op.test (.int m) (.int t) = .ok b := by
  simp only [comparisonWords, List.mem_cons, List.not_mem_nil, or_false] at hmem
  rcases hmem with rfl | rfl
  · refine ⟨.greaterThan, rfl, fun b => ⟨if b then 10 else 1, by cases b <;> decide, ?_⟩⟩
    rw [Comparison.test_greaterThan_int]
    cases b <;> simp <;> omega
  · refine ⟨.lessThan, rfl, fun b => ⟨if b then 1 else 10, by cases b <;> decide, ?_⟩⟩
    rw [Comparison.test_lessThan_int]
    cases b <;> simp <;> omega

/-- Whether the drawn comparison holds of a number and the drawn threshold. -/
theorem evaluate_comparesWith {ctx : Context} {r : Ref} {m t : Int} {word : String} {op : Comparison}
    (hr : r.resolve ctx = .ok (.int m)) (hword : ctx.details.lookup "comparison" = some (.text word))
    (hmem : word ∈ comparisonWords) (hop : Comparison.ofValue (.text word) = .ok op)
    (ht : ctx.details.lookup "threshold" = some (.int t)) :
    (comparesWith r).evaluate ctx = op.test (.int m) (.int t) := by
  have hpart : ∀ (s : String) (op' : Comparison),
      (Condition.all [.compare .equals (detail "comparison") (.constant (.text s)),
        .compare op' r (detail "threshold")]).evaluate ctx =
          if word = s then op'.test (.int m) (.int t) else .ok false := by
    intro s op'
    obtain ⟨b, hb⟩ := Comparison.exists_test_int op' m t
    have htest : (Condition.compare op' r (detail "threshold")).evaluate ctx = .ok b :=
      (evaluate_compare hr (resolve_detail ht)).trans hb
    have hequals : (Condition.compare .equals (detail "comparison") (.constant (.text s))).evaluate ctx =
        .ok (decide (word = s)) := by
      rw [evaluate_equals (w := .text s) (resolve_detail hword) rfl, Value.strictlyEquals]
    change evaluateAll ctx _ = _
    rw [evaluateAll_cons hequals, evaluateAll_cons htest, hb]
    cases b <;> simp [evaluateAll]
  obtain ⟨b, hb⟩ := Comparison.exists_test_int op m t
  change evaluateAny ctx _ = _
  simp only [comparisonWords, List.mem_cons, List.not_mem_nil, or_false] at hmem
  have hfirst := hpart "greater" .greaterThan
  have hsecond := hpart "less" .lessThan
  rcases hmem with rfl | rfl
  · cases hop
    rw [if_pos rfl, hb] at hfirst
    rw [if_neg (by decide)] at hsecond
    rw [evaluateAny_cons hfirst, evaluateAny_cons hsecond, hb]
    cases b <;> simp [evaluateAny]
  · cases hop
    rw [if_neg (by decide)] at hfirst
    rw [if_pos rfl, hb] at hsecond
    rw [evaluateAny_cons hfirst, evaluateAny_cons hsecond, hb]
    cases b <;> simp [evaluateAny]

section Numbers
variable {k : String} {t : Int} {word : String}

theorem hingesOn_above (size : Int) (hk : details.lookup k = some (.int t)) (hlow : 1 ≤ t) (hhigh : t ≤ 9) :
    (Condition.compare .greaterThan (own .number) (detail k)).HingesOn details size .number := by
  have hasks : (Condition.compare .greaterThan (own .number) (detail k)).Asks details size fun m => t < m := by
    intro cell m hm
    rw [evaluate_compare (resolve_number hm) (resolve_detail hk), Comparison.test_greaterThan_int]
  refine hasks.hingesOn hasks.settles (by simp [reads, Ref.reads]) ⟨10, by decide, ?_⟩ ⟨1, by decide, ?_⟩
  · rw [decide_eq_true_eq]
    omega
  · rw [decide_eq_false_iff_not]
    omega

theorem hingesOn_parity (size : Int) (hk : details.lookup k = some (.text word)) (hword : word ∈ parities) :
    (Condition.parity (own .number) (detail k)).HingesOn details size .number := by
  have hasks : (Condition.parity (own .number) (detail k)).Asks details size
      fun m => if word = "even" then m % 2 = 0 else m % 2 ≠ 0 :=
    fun _ _ hm => evaluate_parity (resolve_number hm) (resolve_detail hk)
  simp only [parities, List.mem_cons, List.not_mem_nil, or_false] at hword
  rcases hword with rfl | rfl
  · exact hasks.hingesOn hasks.settles (by simp [reads, Ref.reads]) ⟨2, by decide, by decide⟩ ⟨1, by decide, by decide⟩
  · exact hasks.hingesOn hasks.settles (by simp [reads, Ref.reads]) ⟨1, by decide, by decide⟩ ⟨2, by decide, by decide⟩

theorem hingesOn_multipleOf (size : Int) (hk : details.lookup k = some (.int t)) (ht : t ∈ factors) :
    (Condition.multipleOf (own .number) (detail k)).HingesOn details size .number := by
  have hasks : ∀ {n : Int}, details.lookup k = some (.int n) → n ≠ 0 →
      (Condition.multipleOf (own .number) (detail k)).Asks details size fun m => m % n = 0 :=
    fun hn hne _ _ hm => evaluate_multipleOf (resolve_number hm) (resolve_detail hn) hne
  simp only [factors, List.mem_cons, List.not_mem_nil, or_false] at ht
  rcases ht with rfl | rfl
  · have htwo := hasks hk (by decide)
    exact htwo.hingesOn htwo.settles (by simp [reads, Ref.reads]) ⟨2, by decide, by decide⟩ ⟨1, by decide, by decide⟩
  · have hthree := hasks hk (by decide)
    exact hthree.hingesOn hthree.settles (by simp [reads, Ref.reads]) ⟨3, by decide, by decide⟩ ⟨1, by decide, by decide⟩

theorem hingesOn_prime (details : Details) (size : Int) :
    (Condition.prime (own .number)).HingesOn details size .number := by
  have hasks : (Condition.prime (own .number)).Asks details size isPrime :=
    fun _ _ hm => evaluate_prime (resolve_number hm)
  exact hasks.hingesOn hasks.settles (by simp [reads, Ref.reads]) ⟨2, by decide, by decide⟩ ⟨1, by decide, by decide⟩

theorem hingesOn_between (size : Int) {low high : String} {lo hi : Int} (hlow : details.lookup low = some (.int lo))
    (hhigh : details.lookup high = some (.int hi)) (hone : 1 ≤ lo) (hle : lo ≤ hi) (hnine : hi ≤ 9) :
    (Condition.between (own .number) (detail low) (detail high)).HingesOn details size .number := by
  have hasks : (Condition.between (own .number) (detail low) (detail high)).Asks details size
      fun m => lo ≤ m ∧ m ≤ hi :=
    fun _ _ hm => evaluate_between (resolve_number hm) (resolve_detail hlow) (resolve_detail hhigh)
  refine hasks.hingesOn hasks.settles (by simp [reads, Ref.reads]) ⟨lo, ?_, ?_⟩ ⟨10, by decide, ?_⟩
  · rw [mem_numbers]
    omega
  · rw [decide_eq_true_eq]
    omega
  · rw [decide_eq_false_iff_not]
    omega

/-- The comparison drawn, with a threshold that some numbers exceed and some fall short of. -/
theorem hingesOn_comparesWith (size : Int) (hword : details.lookup "comparison" = some (.text word))
    (hmem : word ∈ comparisonWords) (ht : details.lookup "threshold" = some (.int t)) (hlow : 2 ≤ t) (hhigh : t ≤ 9) :
    (comparesWith (own .number)).HingesOn details size .number := by
  have hequals : ∀ s, (Condition.compare .equals (detail "comparison") (.constant (.text s))).Settles details size :=
    fun s cell _ => ⟨_, evaluate_equals (resolve_detail hword) rfl⟩
  have hcompare : ∀ op, (Condition.compare op (own .number) (detail "threshold")).Settles details size := by
    intro op cell hcell
    obtain ⟨m, -, hm⟩ := Property.mem_domain_number.1 (hcell .number)
    obtain ⟨b, hb⟩ := op.exists_test_int m t
    exact ⟨b, (evaluate_compare (resolve_number hm) (resolve_detail ht)).trans hb⟩
  have htame : (comparesWith (own .number)).Tame details size :=
    ⟨⟨hequals _, hcompare _, trivial⟩, ⟨hequals _, hcompare _, trivial⟩, trivial⟩
  have hreads : ∀ q, (comparesWith (own .number)).reads q = true → q = .number := by
    simp [reads, someReads, Ref.reads]
  obtain ⟨op, hop, htest⟩ := exists_comparison hmem hlow hhigh
  have hvalue : ∀ {cell : Cell} {m : Int}, cell.number = .int m →
      (comparesWith (own .number)).evaluate (cell.context details size) = op.test (.int m) (.int t) :=
    fun hm => evaluate_comparesWith (resolve_number hm) hword hmem hop ht
  obtain ⟨m, hm, htrue⟩ := htest true
  obtain ⟨n, hn, hfalse⟩ := htest false
  exact ⟨htame, hreads, ⟨.int m, Property.mem_domain_number.2 ⟨m, hm, rfl⟩, fun cell _ => (hvalue rfl).trans htrue⟩,
    ⟨.int n, Property.mem_domain_number.2 ⟨n, hn, rfl⟩, fun cell _ => (hvalue rfl).trans hfalse⟩⟩

end Numbers

end Condition
end ShapePuzzle
