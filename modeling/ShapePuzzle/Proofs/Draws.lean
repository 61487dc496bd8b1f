import ShapePuzzle.Proofs.TurnRuns

/-!
# What is drawn

An element that is picked is one of those offered, and a shuffled list holds what it held before. No draw
touches the subject, and only an inverted interval is logged.
-/
namespace ShapePuzzle
variable {σ α : Type} {st st' : σ × Luck}

private theorem getD_mem_cons (x : α) (rest : List α) (k : Nat) : (x :: rest).getD k x ∈ x :: rest := by
  rw [List.getD_eq_getElem?_getD]
  cases h : (x :: rest)[k]? with
  | none => exact List.mem_cons_self
  | some y => exact List.mem_of_getElem? h

theorem pick_spec {xs : List α} {a : α} (h : (pick xs : Turn σ α) st = .ok a st') : a ∈ xs ∧ st'.1 = st.1 := by
  cases xs with
  | nil => exact absurd h Turn.throw_ne_ok
  | cons x rest =>
    obtain ⟨k, st₁, hk, h⟩ := Turn.bind_eq_ok.1 h
    obtain ⟨rfl, rfl⟩ := Turn.pure_eq_ok.1 h
    exact ⟨getD_mem_cons x rest k, by rw [← (Turn.draw_eq_ok.1 hk).2]⟩

theorem silent_pick (xs : List α) : Turn.Silent (pick xs : Turn σ α) := by
  cases xs with
  | nil => exact .throw _
  | cons x rest => exact .bind (.draw _) fun _ => .pure _

theorem logs_pickInteger {W : Warning → Prop} (low high : Int) (hW : high < low → W (.invertedInterval low high)) :
    Turn.Logs W (pickInteger low high : Turn σ Int) := by
  unfold pickInteger
  split
  · exact .bind (.warn (hW ‹_›)) fun _ => .pure _
  · exact .bind (.draw _) fun _ => .pure _

/-- An integer between the bounds is picked, or the lower one with a warning. -/
theorem pickInteger_spec {low high n : Int} (h : (pickInteger low high : Turn σ Int) st = .ok n st') :
    (low ≤ high ∧ low ≤ n ∧ n ≤ high ∧ st'.2.warnings = st.2.warnings) ∨
      (high < low ∧ n = low ∧ st'.2.warnings = st.2.warnings ++ [.invertedInterval low high]) := by
  unfold pickInteger at h
  split at h
  · rename_i hlt
    obtain ⟨_, st₁, hwarn, h⟩ := Turn.bind_eq_ok.1 h
    obtain ⟨rfl, rfl⟩ := Turn.pure_eq_ok.1 h
    exact .inr ⟨hlt, rfl, by rw [← Turn.warn_eq_ok.1 hwarn]⟩
  · rename_i hle
    obtain ⟨k, st₁, hdraw, h⟩ := Turn.bind_eq_ok.1 h
    obtain ⟨rfl, rfl⟩ := Turn.pure_eq_ok.1 h
    obtain ⟨hk, hst⟩ := Turn.draw_eq_ok.1 hdraw
    have hpos : 0 < ((high - low + 1).toNat : Int) := by omega
    have hlt := Int.emod_lt_of_pos (st.2.source st.2.drawn) hpos
    have hge := Int.emod_nonneg (st.2.source st.2.drawn) (Int.ne_of_gt hpos)
    exact .inl ⟨by omega, by omega, by omega, by rw [← hst]⟩

theorem pickExcluding_spec {domain excluded : List Value} {v : Value}
    (h : (pickExcluding domain excluded : Turn σ Value) st = .ok v st') :
    v ∈ domain ∧ st'.1 = st.1 ∧ ((∃ w ∈ domain, w.isIn excluded = false) → v.isIn excluded = false) := by
  unfold pickExcluding at h
  cases hf : domain.filter fun v => !v.isIn excluded with
  | nil =>
    rw [hf] at h
    obtain ⟨hv, hs⟩ := pick_spec h
    refine ⟨hv, hs, ?_⟩
    rintro ⟨w, hw, hex⟩
    have hmem : w ∈ domain.filter fun v => !v.isIn excluded := List.mem_filter.2 ⟨hw, by simp [hex]⟩
    rw [hf] at hmem
    exact absurd hmem List.not_mem_nil
  | cons w rest =>
    rw [hf] at h
    obtain ⟨hv, hs⟩ := pick_spec h
    rw [← hf] at hv
    obtain ⟨hdom, hex⟩ := List.mem_filter.1 hv
    exact ⟨hdom, hs, fun _ => by simpa using hex⟩

theorem silent_pickExcluding (domain excluded : List Value) :
    Turn.Silent (pickExcluding domain excluded : Turn σ Value) := by
  unfold pickExcluding
  split
  · exact silent_pick _
  · exact silent_pick _

private theorem swapIfInBounds_perm (items : Array α) (i j : Nat) :
    (items.swapIfInBounds i j).toList.Perm items.toList := by
  rw [Array.swapIfInBounds_def]
  split
  · split
    · exact (Array.swap_perm _ _).toList
    · exact .refl _
  · exact .refl _

private theorem shuffleFrom_spec {k : Nat} {items items' : Array α}
    (h : (shuffleFrom k items : Turn σ (Array α)) st = .ok items' st') :
    items'.toList.Perm items.toList ∧ st'.1 = st.1 := by
  induction k generalizing items st with
  | zero =>
    obtain ⟨rfl, rfl⟩ := Turn.pure_eq_ok.1 h
    exact ⟨.refl _, rfl⟩
  | succ k ih =>
    obtain ⟨j, st₁, hj, h⟩ := Turn.bind_eq_ok.1 h
    obtain ⟨hperm, hs⟩ := ih h
    refine ⟨hperm.trans (swapIfInBounds_perm items (k + 1) j), ?_⟩
    rw [hs, ← (Turn.draw_eq_ok.1 hj).2]

theorem shuffle_spec {xs ys : List α} (h : (shuffle xs : Turn σ (List α)) st = .ok ys st') :
    ys.Perm xs ∧ st'.1 = st.1 := by
  obtain ⟨items, st₁, hi, h⟩ := Turn.bind_eq_ok.1 h
  obtain ⟨rfl, rfl⟩ := Turn.pure_eq_ok.1 h
  exact shuffleFrom_spec hi

private theorem silent_shuffleFrom (k : Nat) (items : Array α) :
    Turn.Silent (shuffleFrom k items : Turn σ (Array α)) := by
  induction k generalizing items with
  | zero => exact .pure _
  | succ k ih => exact .bind (.draw _) fun _ => ih _

theorem silent_shuffle (xs : List α) : Turn.Silent (shuffle xs : Turn σ (List α)) :=
  .bind (silent_shuffleFrom _ _) fun _ => .pure _

end ShapePuzzle
