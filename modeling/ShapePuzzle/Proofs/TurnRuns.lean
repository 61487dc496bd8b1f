import ShapePuzzle.Luck
import ShapePuzzle.Rule.Violation

/-!
# Runs of turns

What a turn that returned must have done, primitive by primitive, and what it may have logged on the way.
A turn is taken apart at its binds; after that only the equations of this file are used for luck and subject.
-/
namespace ShapePuzzle

/-- The warnings logged between one luck and a later one. -/
def Luck.news (before after : Luck) : List Warning :=
  after.warnings.drop before.warnings.length

theorem except_bind_eq_ok {ε α β : Type} {x : Except ε α} {f : α → Except ε β} {b : β} :
    (x >>= f) = .ok b ↔ ∃ a, x = .ok a ∧ f a = .ok b := by
  cases x with
  | ok a => simp [bind, Except.bind]
  | error e => simp [bind, Except.bind]

theorem except_pure_eq_ok {ε α : Type} {a b : α} : (pure a : Except ε α) = .ok b ↔ a = b := by
  simp [pure, Except.pure]

/-- All elements pass a check that may fail if each of them does. -/
theorem allM_eq_ok_true {ε α : Type} {f : α → Except ε Bool} {xs : List α} :
    xs.allM f = .ok true ↔ ∀ x ∈ xs, f x = .ok true := by
  induction xs with
  | nil => simp [List.allM, pure, Except.pure]
  | cons x xs ih =>
    simp only [List.allM, List.forall_mem_cons, ← ih, except_bind_eq_ok]
    constructor
    · rintro ⟨b, hb, h⟩
      cases b with
      | true => exact ⟨hb, h⟩
      | false => cases h
    · rintro ⟨hb, h⟩
      exact ⟨true, hb, h⟩

/-- Some element fails a check that all of them come to. -/
theorem exists_of_allM_eq_ok_false {ε α : Type} {f : α → Except ε Bool} {xs : List α}
    (h : xs.allM f = .ok false) : ∃ x ∈ xs, f x = .ok false := by
  induction xs with
  | nil => cases h
  | cons x xs ih =>
    simp only [List.allM, except_bind_eq_ok] at h
    obtain ⟨b, hb, h⟩ := h
    cases b with
    | false => exact ⟨x, List.mem_cons_self, hb⟩
    | true =>
      obtain ⟨y, hy, hfalse⟩ := ih h
      exact ⟨y, List.mem_cons_of_mem x hy, hfalse⟩

namespace Turn
variable {σ τ α β : Type} {st st' : σ × Luck}

theorem bind_eq_ok {x : Turn σ α} {f : α → Turn σ β} {b : β} :
    (x >>= f) st = .ok b st' ↔ ∃ a st₁, x st = .ok a st₁ ∧ f a st₁ = .ok b st' := by
  simp only [bind, EStateM.bind]
  cases x st with
  | ok a st₁ =>
    constructor
    · intro h
      exact ⟨a, st₁, rfl, h⟩
    · rintro ⟨a', st₂, h, h'⟩
      cases h
      exact h'
  | error e st₁ => simp

theorem pure_eq_ok {a b : α} : (pure a : Turn σ α) st = .ok b st' ↔ a = b ∧ st = st' := by
  simp only [pure, EStateM.pure, EStateM.Result.ok.injEq]

theorem throw_ne_ok {e : Fault} {a : α} : (throw e : Turn σ α) st ≠ .ok a st' := by
  intro h
  cases h

theorem ofExcept_eq_ok {x : Except Fault α} {a : α} :
    (ofExcept x : Turn σ α) st = .ok a st' ↔ x = .ok a ∧ st = st' := by
  cases x with
  | ok b => simp only [ofExcept, pure_eq_ok, Except.ok.injEq]
  | error e => simp [ofExcept, throw_ne_ok]

theorem subject_eq_ok {s : σ} : (subject : Turn σ σ) st = .ok s st' ↔ st.1 = s ∧ st = st' := by
  change EStateM.Result.ok st.1 st = .ok s st' ↔ _
  simp only [EStateM.Result.ok.injEq]

theorem become_eq_ok {s : σ} {u : Unit} : (become s) st = .ok u st' ↔ (s, st.2) = st' := by
  change EStateM.Result.ok () (s, st.2) = .ok u st' ↔ _
  simp only [EStateM.Result.ok.injEq, true_and]

theorem warn_eq_ok {w : Warning} {u : Unit} :
    (warn w : Turn σ Unit) st = .ok u st' ↔
      (st.1, { st.2 with warnings := st.2.warnings ++ [w] }) = st' := by
  change EStateM.Result.ok () _ = .ok u st' ↔ _
  simp only [EStateM.Result.ok.injEq, true_and]

theorem draw_eq_ok {n k : Nat} :
    (draw n : Turn σ Nat) st = .ok k st' ↔
      (st.2.source st.2.drawn % n).toNat = k ∧ (st.1, { st.2 with drawn := st.2.drawn + 1 }) = st' := by
  simp only [draw, EStateM.Result.ok.injEq]

theorem aside_eq_ok {start : τ} {work : Turn τ α} {p : α × τ} :
    (aside start work : Turn σ (α × τ)) st = .ok p st' ↔
      ∃ luck, work (start, st.2) = .ok p.1 (p.2, luck) ∧ (st.1, luck) = st' := by
  obtain ⟨a, t⟩ := p
  simp only [aside]
  cases work (start, st.2) with
  | ok b r =>
    obtain ⟨t', luck⟩ := r
    constructor
    · intro h
      cases h
      exact ⟨luck, rfl, rfl⟩
    · rintro ⟨luck', h, rfl⟩
      cases h
      rfl
  | error e r => simp

theorem within_eq_ok {part : σ → τ} {put : τ → σ → σ} {work : Turn τ α} {a : α} :
    (within part put work) st = .ok a st' ↔
      ∃ t luck, work (part st.1, st.2) = .ok a (t, luck) ∧ (put t st.1, luck) = st' := by
  simp only [within]
  cases work (part st.1, st.2) with
  | ok b r =>
    obtain ⟨t', luck⟩ := r
    constructor
    · intro h
      cases h
      exact ⟨t', luck, rfl, rfl⟩
    · rintro ⟨t, luck', h, rfl⟩
      cases h
      rfl
  | error e r => simp

/-- The turn goes on in the same sequence of numbers, and whatever it logs before it returns is among the given
warnings. -/
def Logs (W : Warning → Prop) (x : Turn σ α) : Prop :=
  ∀ ⦃st a st'⦄, x st = .ok a st' → st'.2.source = st.2.source ∧
    ∃ ws, st'.2.warnings = st.2.warnings ++ ws ∧ ∀ w ∈ ws, W w

/-- The turn logs nothing. -/
abbrev Silent (x : Turn σ α) : Prop := Logs (fun _ => False) x

namespace Logs
variable {W : Warning → Prop} {x : Turn σ α}

theorem mono {V : Warning → Prop} (h : Logs W x) (hV : ∀ w, W w → V w) : Logs V x := by
  intro st a st' hx
  obtain ⟨hsource, ws, hws, hW⟩ := h hx
  exact ⟨hsource, ws, hws, fun w hw => hV w (hW w hw)⟩

theorem of_silent (h : Silent x) : Logs W x :=
  h.mono fun _ hw => hw.elim

theorem bind {f : α → Turn σ β} (hx : Logs W x) (hf : ∀ a, Logs W (f a)) : Logs W (x >>= f) := by
  intro st b st' h
  obtain ⟨a, st₁, h₁, h₂⟩ := bind_eq_ok.1 h
  obtain ⟨hs, ws, hws, hW⟩ := hx h₁
  obtain ⟨hs', vs, hvs, hV⟩ := hf a h₂
  refine ⟨hs'.trans hs, ws ++ vs, by rw [hvs, hws, List.append_assoc], ?_⟩
  intro w hw
  rcases List.mem_append.1 hw with hw | hw
  · exact hW w hw
  · exact hV w hw

private theorem of_eq (h : ∀ ⦃st a st'⦄, x st = .ok a st' → st'.2.source = st.2.source ∧
    st'.2.warnings = st.2.warnings) : Logs W x := by
  intro st a st' hx
  obtain ⟨hsource, hwarnings⟩ := h hx
  exact ⟨hsource, [], by rw [hwarnings, List.append_nil], by simp⟩

theorem pure (a : α) : Logs W (Pure.pure a : Turn σ α) :=
  of_eq fun _ _ _ h => by simp [(pure_eq_ok.1 h).2]

theorem throw (e : Fault) : Logs W (MonadExcept.throw e : Turn σ α) :=
  fun _ _ _ h => absurd h throw_ne_ok

theorem ofExcept (r : Except Fault α) : Logs W (Turn.ofExcept r : Turn σ α) :=
  of_eq fun _ _ _ h => by simp [(ofExcept_eq_ok.1 h).2]

theorem subject : Logs W (Turn.subject : Turn σ σ) :=
  of_eq fun _ _ _ h => by simp [(subject_eq_ok.1 h).2]

theorem become (s : σ) : Logs W (Turn.become s) :=
  of_eq fun _ _ _ h => by simp [← become_eq_ok.1 h]

theorem warn {w : Warning} (hw : W w) : Logs W (Turn.warn w : Turn σ Unit) := by
  intro st a st' h
  rw [← warn_eq_ok.1 h]
  exact ⟨rfl, [w], rfl, by simpa using hw⟩

theorem draw (n : Nat) : Logs W (Turn.draw n : Turn σ Nat) :=
  of_eq fun _ _ _ h => by simp [← (draw_eq_ok.1 h).2]

theorem aside {start : τ} {work : Turn τ α} (h : Logs W work) :
    Logs W (Turn.aside start work : Turn σ (α × τ)) := by
  intro st p st' hx
  obtain ⟨luck, hw, rfl⟩ := aside_eq_ok.1 hx
  exact h hw

theorem within {part : σ → τ} {put : τ → σ → σ} {work : Turn τ α} (h : Logs W work) :
    Logs W (Turn.within part put work) := by
  intro st a st' hx
  obtain ⟨t, luck, hw, rfl⟩ := within_eq_ok.1 hx
  exact h hw

theorem source_eq {st st' : σ × Luck} {a : α} (h : Logs W x) (hx : x st = .ok a st') :
    st'.2.source = st.2.source :=
  (h hx).1

end Logs

/-- A turn that could only log what is not among the news has logged nothing. -/
theorem Logs.warnings_eq {W : Warning → Prop} {x : Turn σ α} {a : α} {s t : σ} {luck luck' : Luck} (h : Logs W x)
    (hx : x (s, luck) = .ok a (t, luck')) (hno : ∀ w, W w → w ∉ luck.news luck') :
    luck'.warnings = luck.warnings := by
  obtain ⟨-, ws, hws, hW⟩ := h hx
  change luck'.warnings = luck.warnings ++ ws at hws
  have hnews : luck.news luck' = ws := by rw [Luck.news, hws, List.drop_left]
  have hnil : ws = [] := by
    refine List.eq_nil_iff_forall_not_mem.2 fun w hw => ?_
    rw [← hnews] at hw
    exact hno w (hW w (hnews ▸ hw)) hw
  rw [hws, hnil, List.append_nil]

/-- Two turns in a row log nothing together only if neither does. -/
theorem Logs.quiet_split {V W : Warning → Prop} {x : Turn σ α} {y : Turn τ β}
    {su su' : τ × Luck} {a : α} {b : β} (hx : Logs V x) (hy : Logs W y)
    (hxrun : x st = .ok a st') (hyrun : y su = .ok b su') (hsu : su.2.warnings = st'.2.warnings)
    (h : su'.2.warnings = st.2.warnings) :
    st'.2.warnings = st.2.warnings ∧ su'.2.warnings = su.2.warnings := by
  obtain ⟨-, ws, hws, -⟩ := hx hxrun
  obtain ⟨-, vs, hvs, -⟩ := hy hyrun
  rw [hvs, hsu, hws, List.append_assoc] at h
  have hnil := List.append_eq_nil_iff.1 (List.append_right_eq_self.1 h)
  rw [hvs, hws, hnil.1, hnil.2]
  simp

theorem Silent.warnings_eq {x : Turn σ α} (h : Silent x) {a : α} (hx : x st = .ok a st') :
    st'.2.warnings = st.2.warnings := by
  obtain ⟨-, ws, hws, hno⟩ := h hx
  rw [hws, List.eq_nil_iff_forall_not_mem.2 hno, List.append_nil]

end Turn
end ShapePuzzle
