import ShapePuzzle.Proofs.RandomGrids
import ShapePuzzle.Proofs.StatementRuns
import ShapePuzzle.Round
import Mathlib.Data.List.Nodup

/-!
# The search for false statements

What the search keeps track of agrees throughout: the statements accepted, the templates used and the texts
taken. From it follows what the options of a round are, and that a round is not built when too few attempts
succeed.
-/
namespace ShapePuzzle.Round
variable {σ : Type} {bank : List Template} {g : Grid} {st st' : σ × Luck} {source : Nat → Int} {truth : Nat}
  {statement : Statement} {ds : List (Statement × Nat)} {wanted attempts : Int}

namespace Search
variable {s s' : Search}

/-- The search has accepted statements of templates with some indices, in this order, each of them drawn from
the sequence and false on the grid. As long as there are templates not used before, none is used again. -/
structure Records (σ : Type) (bank : List Template) (g : Grid) (source : Nat → Int) (truth : Nat)
    (statement : Statement) (ds : List (Statement × Nat)) (s : Search) : Prop where
  accepted : s.accepted = ds.map Prod.fst
  used : s.used = (ds.map Prod.snd).reverse ++ [truth]
  texts : s.texts = (ds.map fun d => d.1.text).reverse ++ [statement.text]
  distinct : s.texts.Nodup
  fails : ∀ d ∈ ds, ∃ (t : Template) (st st' : σ × Luck), bank[d.2]? = some t ∧ st.2.source = source ∧
    t.state st = .ok d.1 st' ∧ t.verify g d.1.details = .ok false
  fresh : (truth :: (ds.take (bank.length - 1)).map Prod.snd).Nodup

private theorem exists_unused {used : List Nat} {n : Nat} (h : used.length < n) : ∃ k < n, k ∉ used := by
  by_contra hall
  have hsub : List.range n ⊆ used := by
    intro k hk
    by_contra hused
    exact hall ⟨k, List.mem_range.1 hk, hused⟩
  have hlength := List.nodup_range.length_le_of_subset hsub
  rw [List.length_range] at hlength
  omega

private theorem pickTemplate_spec {t : Template} {k : Nat}
    (h : (s.pickTemplate bank.zipIdx : Turn σ (Template × Nat)) st = .ok (t, k) st') :
    bank[k]? = some t ∧ (s.used.length < bank.length → k ∉ s.used) := by
  unfold pickTemplate at h
  cases hf : bank.zipIdx.filter fun t => !s.used.contains t.2 with
  | nil =>
    rw [hf] at h
    refine ⟨List.mem_zipIdx_iff_getElem?.1 (pick_spec h).1, fun hlength => ?_⟩
    obtain ⟨i, hi, hunused⟩ := exists_unused hlength
    have hmem : (bank[i], i) ∈ bank.zipIdx.filter fun t => !s.used.contains t.2 := by
      refine List.mem_filter.2 ⟨List.mem_zipIdx_iff_getElem?.2 (List.getElem?_eq_getElem hi), ?_⟩
      simpa using hunused
    rw [hf] at hmem
    exact absurd hmem List.not_mem_nil
  | cons u rest =>
    rw [hf] at h
    have hmem := (pick_spec h).1
    rw [← hf] at hmem
    obtain ⟨hzip, hunused⟩ := List.mem_filter.1 hmem
    exact ⟨List.mem_zipIdx_iff_getElem?.1 hzip, fun _ => by simpa using hunused⟩

private theorem silent_pickTemplate (s : Search) (bank : List (Template × Nat)) :
    Turn.Silent (s.pickTemplate bank : Turn σ (Template × Nat)) := by
  unfold pickTemplate
  split
  · exact silent_pick _
  · exact silent_pick _

/-- An attempt leaves the search as it is or accepts a statement. -/
private theorem attempt_spec (h : (s.attempt bank.zipIdx g : Turn σ Search) st = .ok s' st') :
    s' = s ∨ ∃ (t : Template) (k : Nat) (d : Statement) (st₁ st₂ : σ × Luck), s' = s.accept k d ∧
      bank[k]? = some t ∧ (s.used.length < bank.length → k ∉ s.used) ∧ st₁.2.source = st.2.source ∧
      t.state st₁ = .ok d st₂ ∧ d.text ∉ s.texts ∧ t.verify g d.details = .ok false := by
  obtain ⟨⟨t, k⟩, st₁, hpick, h⟩ := Turn.bind_eq_ok.1 h
  obtain ⟨d, st₂, hd, h⟩ := Turn.bind_eq_ok.1 h
  obtain ⟨hk, hunused⟩ := pickTemplate_spec hpick
  split at h
  · obtain ⟨rfl, -⟩ := Turn.pure_eq_ok.1 h
    exact .inl rfl
  · rename_i hnew
    obtain ⟨b, st₃, hb, h⟩ := Turn.bind_eq_ok.1 h
    obtain ⟨hverify, rfl⟩ := Turn.ofExcept_eq_ok.1 hb
    cases b with
    | true =>
      obtain ⟨rfl, -⟩ := Turn.pure_eq_ok.1 h
      exact .inl rfl
    | false =>
      obtain ⟨rfl, -⟩ := Turn.pure_eq_ok.1 h
      exact .inr ⟨t, k, d, st₁, st₂, rfl, hk, hunused, (silent_pickTemplate s _).source_eq hpick, hd,
        by simpa using hnew, hverify⟩

theorem logs_attempt (s : Search) (bank : List (Template × Nat)) (g : Grid) :
    Turn.Logs Warning.OfStatement (s.attempt bank g : Turn σ Search) := by
  refine .bind (.of_silent (silent_pickTemplate s bank)) fun t => .bind t.1.logs_state fun d => ?_
  split
  · exact .pure _
  · refine .bind (.ofExcept _) fun b => ?_
    cases b with
    | true => exact .pure _
    | false => exact .pure _

theorem logs_run (bank : List (Template × Nat)) (g : Grid) (wanted : Int) (n : Nat) (s : Search) :
    Turn.Logs Warning.OfStatement (run bank g wanted n s : Turn σ Search) := by
  induction n generalizing s with
  | zero => exact .pure _
  | succ n ih =>
    unfold run
    split
    · exact .pure _
    · exact .bind (logs_attempt s bank g) fun _ => ih _

theorem Records.start (bank : List Template) (g : Grid) (source : Nat → Int) (truth : Nat) (statement : Statement) :
    Records σ bank g source truth statement [] ⟨[], [truth], [statement.text]⟩ := by
  constructor <;> simp

/-- Accepting a false statement with a new text keeps the record; its template is new if there is a new one. -/
private theorem Records.accept (hs : Records σ bank g source truth statement ds s) {t : Template} {k : Nat}
    {d : Statement} {st₁ st₂ : σ × Luck} (hk : bank[k]? = some t)
    (hunused : s.used.length < bank.length → k ∉ s.used) (hsource : st₁.2.source = source)
    (hd : t.state st₁ = .ok d st₂) (htext : d.text ∉ s.texts) (hverify : t.verify g d.details = .ok false) :
    Records σ bank g source truth statement (ds ++ [(d, k)]) (s.accept k d) where
  accepted := by simp [Search.accept, hs.accepted]
  used := by simp [Search.accept, hs.used]
  texts := by simp [Search.accept, hs.texts]
  distinct := List.nodup_cons.2 ⟨htext, hs.distinct⟩
  fails := by
    intro e he
    rcases List.mem_append.1 he with he | he
    · exact hs.fails e he
    · obtain rfl := List.mem_singleton.1 he
      exact ⟨t, st₁, st₂, hk, hsource, hd, hverify⟩
  fresh := by
    have hfresh := hs.fresh
    by_cases hfull : bank.length - 1 ≤ ds.length
    · rwa [List.take_append_of_le_length hfull]
    · have hlength : s.used.length = ds.length + 1 := by simp [hs.used]
      have hnot := hunused (by omega)
      rw [List.take_of_length_le (by omega)] at hfresh
      rw [List.take_of_length_le (by rw [List.length_append, List.length_singleton]; omega), List.map_append]
      simp only [hs.used, List.mem_append, List.mem_reverse, List.mem_singleton, not_or] at hnot
      obtain ⟨htruth, hnodup⟩ := List.nodup_cons.1 hfresh
      refine List.nodup_cons.2 ⟨?_, List.nodup_append.2 ⟨hnodup, by simp, ?_⟩⟩
      · simp only [List.map_cons, List.map_nil, List.mem_append, List.mem_singleton, not_or]
        exact ⟨htruth, fun h => hnot.2 h.symm⟩
      · intro i hi j hj hij
        obtain rfl := List.mem_singleton.1 hj
        exact hnot.1 (hij ▸ hi)

/-- The record is kept through the whole search, which stops once it has what is wanted. -/
theorem run_spec {n : Nat} (hs : Records σ bank g source truth statement ds s) (hsource : st.2.source = source)
    (hlength : s.accepted.length ≤ wanted.toNat)
    (h : (run bank.zipIdx g wanted n s : Turn σ Search) st = .ok s' st') :
    (∃ ds', Records σ bank g source truth statement ds' s') ∧ s'.accepted.length ≤ wanted.toNat := by
  induction n generalizing s st ds with
  | zero =>
    obtain ⟨rfl, -⟩ := Turn.pure_eq_ok.1 h
    exact ⟨⟨ds, hs⟩, hlength⟩
  | succ n ih =>
    unfold run at h
    split at h
    · obtain ⟨rfl, -⟩ := Turn.pure_eq_ok.1 h
      exact ⟨⟨ds, hs⟩, hlength⟩
    · rename_i hfew
      obtain ⟨s₁, st₁, hattempt, hrest⟩ := Turn.bind_eq_ok.1 h
      have hsource₁ : st₁.2.source = source := ((logs_attempt s _ g).source_eq hattempt).trans hsource
      rcases attempt_spec hattempt with rfl | ⟨t, k, d, st₂, st₃, rfl, hk, hunused, hsource₂, hd, htext, hverify⟩
      · exact ih hs hsource₁ hlength hrest
      · refine ih (hs.accept hk hunused (hsource₂.trans hsource) hd htext hverify) hsource₁ ?_ hrest
        rw [Search.accept, List.length_append, List.length_singleton]
        omega

/-- As many attempts as there are, whatever has been found. -/
def tryAll (bank : List (Template × Nat)) (g : Grid) : Nat → Search → Turn σ Search
  | 0, s => return s
  | n + 1, s => do tryAll bank g n (← s.attempt bank g)

private theorem length_le_of_tryAll {n : Nat} (h : (tryAll bank.zipIdx g n s : Turn σ Search) st = .ok s' st') :
    s.accepted.length ≤ s'.accepted.length := by
  induction n generalizing s st with
  | zero =>
    obtain ⟨rfl, -⟩ := Turn.pure_eq_ok.1 h
    exact Nat.le_refl _
  | succ n ih =>
    obtain ⟨s₁, st₁, hattempt, h⟩ := Turn.bind_eq_ok.1 h
    refine Nat.le_trans ?_ (ih h)
    rcases attempt_spec hattempt with rfl | ⟨t, k, d, st₂, st₃, rfl, -⟩
    · exact Nat.le_refl _
    · simp [Search.accept]

/-- A search that would find too little by all its attempts makes all of them. -/
theorem run_eq_tryAll {n : Nat} (h : (tryAll bank.zipIdx g n s : Turn σ Search) st = .ok s' st')
    (hfew : s'.accepted.length < wanted) : (run bank.zipIdx g wanted n s : Turn σ Search) st = .ok s' st' := by
  induction n generalizing s st with
  | zero => exact h
  | succ n ih =>
    have hs := length_le_of_tryAll h
    obtain ⟨s₁, st₁, hattempt, h⟩ := Turn.bind_eq_ok.1 h
    unfold run
    rw [if_neg (by omega)]
    exact Turn.bind_eq_ok.2 ⟨s₁, st₁, hattempt, ih h⟩

end Search

/-- The first option with the text of the statement is the statement, as no other option has its text. -/
private theorem getElem?_correctIndex {r : Round} (hmem : r.statement ∈ r.options)
    (hnodup : (r.options.map Statement.text).Nodup) : r.options[r.correctIndex]? = some r.statement := by
  have hlt : r.correctIndex < r.options.length :=
    List.findIdx_lt_length_of_exists ⟨r.statement, hmem, by simp⟩
  have htext : r.options[r.correctIndex].text = r.statement.text :=
    of_decide_eq_true (List.findIdx_getElem (w := hlt))
  have hsame := List.inj_on_of_nodup_map hnodup (List.getElem_mem hlt) hmem htext
  rw [List.getElem?_eq_getElem hlt, hsame]

/-- The draws that make up a round. -/
theorem build_runs {tier : String} {r : Round} (h : (build bank tier wanted attempts : Turn σ Round) st = .ok r st') :
    ∃ k st₁ st₂ st₃ st₄ found, bank[k]? = some r.template ∧
      (pick bank.zipIdx : Turn σ (Template × Nat)) st = .ok (r.template, k) st₁ ∧
      (r.template.state : Turn σ Statement) st₁ = .ok r.statement st₂ ∧
      (r.template.buildGrid standardSize true r.statement.details : Turn σ Grid) st₂ = .ok r.grid st₃ ∧
      (Search.run bank.zipIdx r.grid wanted attempts.toNat ⟨[], [k], [r.statement.text]⟩ : Turn σ Search) st₃ =
        .ok found st₄ ∧
      wanted ≤ found.accepted.length ∧
      (shuffle (r.statement :: found.accepted) : Turn σ (List Statement)) st₄ = .ok r.options st' := by
  obtain ⟨⟨t, k⟩, st₁, hpick, h⟩ := Turn.bind_eq_ok.1 h
  obtain ⟨d, st₂, hstate, h⟩ := Turn.bind_eq_ok.1 h
  obtain ⟨g, st₃, hgrid, h⟩ := Turn.bind_eq_ok.1 h
  obtain ⟨others, st₄, hothers, h⟩ := Turn.bind_eq_ok.1 h
  obtain ⟨options, st₅, hshuffle, h⟩ := Turn.bind_eq_ok.1 h
  obtain ⟨rfl, rfl⟩ := Turn.pure_eq_ok.1 h
  obtain ⟨found, st₆, hfound, hothers⟩ := Turn.bind_eq_ok.1 hothers
  split at hothers
  · exact absurd hothers Turn.throw_ne_ok
  · rename_i hmany
    obtain ⟨rfl, rfl⟩ := Turn.pure_eq_ok.1 hothers
    exact ⟨k, st₁, st₂, st₃, st₆, found, List.mem_zipIdx_iff_getElem?.1 (pick_spec hpick).1, hpick, hstate, hgrid,
      hfound, by omega, hshuffle⟩

/-- A round that is built shows its statement among as many false ones as were wanted, all with texts of their
own; the false ones come from templates not used before as long as there are any. If the attempts do not yield
as many, no round is built. -/
theorem build_options (bank : List Template) (tier : String) (wanted attempts : Int) (s : σ) (luck : Luck) :
    (∀ (r : Round) (st' : σ × Luck), (build bank tier wanted attempts : Turn σ Round) (s, luck) = .ok r st' →
      ∃ (truth : Nat) (ds : List (Statement × Nat)) (found : Search) (st₁ st₂ st₃ st₄ : σ × Luck),
        bank[truth]? = some r.template ∧
        (pick bank.zipIdx : Turn σ (Template × Nat)) (s, luck) = .ok (r.template, truth) st₁ ∧
        r.template.state st₁ = .ok r.statement st₂ ∧
        r.template.buildGrid standardSize true r.statement.details st₂ = .ok r.grid st₃ ∧
        Search.run bank.zipIdx r.grid wanted attempts.toNat ⟨[], [truth], [r.statement.text]⟩ st₃ = .ok found st₄ ∧
        found.accepted = ds.map Prod.fst ∧ found.used = (ds.map Prod.snd).reverse ++ [truth] ∧
        ds.length = wanted.toNat ∧
        r.options.Perm (r.statement :: ds.map Prod.fst) ∧
        (r.options.map Statement.text).Nodup ∧
        r.options[r.correctIndex]? = some r.statement ∧
        (∀ d ∈ ds, ∃ (t : Template) (st st' : σ × Luck), bank[d.2]? = some t ∧ st.2.source = luck.source ∧
          t.state st = .ok d.1 st' ∧ t.verify r.grid d.1.details = .ok false) ∧
        (truth :: (ds.take (bank.length - 1)).map Prod.snd).Nodup) ∧
    ∀ (t : Template) (k : Nat) (d : Statement) (g : Grid) (found : Search) (st₁ st₂ st₃ st₄ : σ × Luck),
      (pick bank.zipIdx : Turn σ (Template × Nat)) (s, luck) = .ok (t, k) st₁ →
      t.state st₁ = .ok d st₂ →
      t.buildGrid standardSize true d.details st₂ = .ok g st₃ →
      Search.tryAll bank.zipIdx g attempts.toNat ⟨[], [k], [d.text]⟩ st₃ = .ok found st₄ →
      found.accepted.length < wanted →
      (build bank tier wanted attempts : Turn σ Round) (s, luck) =
        .error (.distractorsExhausted found.accepted.length wanted t.name attempts) st₄ := by
  constructor
  · intro r st' h
    obtain ⟨k, st₁, st₂, st₃, st₄, found, hk, hpick, hstate, hgrid, hfound, hmany, hshuffle⟩ := build_runs h
    have hsource : st₃.2.source = luck.source :=
      ((r.template.logs_buildGrid_true _ _).source_eq hgrid).trans
        ((r.template.logs_state.source_eq hstate).trans ((silent_pick _).source_eq hpick))
    obtain ⟨⟨ds, hds⟩, hfew⟩ := Search.run_spec (.start bank r.grid luck.source k r.statement) hsource
      (Nat.zero_le _) hfound
    have hlength : ds.length = found.accepted.length := by rw [hds.accepted, List.length_map]
    have hperm := (shuffle_spec hshuffle).1
    have htexts : (r.options.map Statement.text).Nodup := by
      have hdistinct := hds.distinct
      rw [hds.texts, ← List.nodup_reverse, List.reverse_append, List.reverse_reverse] at hdistinct
      refine (hperm.map Statement.text).nodup_iff.2 ?_
      rw [List.map_cons, hds.accepted, List.map_map]
      exact hdistinct
    refine ⟨k, ds, found, st₁, st₂, st₃, st₄, hk, hpick, hstate, hgrid, hfound, hds.accepted, hds.used, by omega,
      hds.accepted ▸ hperm, htexts, ?_, hds.fails, hds.fresh⟩
    exact getElem?_correctIndex (hperm.mem_iff.2 List.mem_cons_self) htexts
  · intro t k d g found st₁ st₂ st₃ st₄ hpick hstate hgrid htry hfew
    -- too little was found, so the search did not stop before its last attempt
    have hrun := Search.run_eq_tryAll htry hfew
    simp only [build, distractors, bind, EStateM.bind, hpick, hstate, hgrid, hrun, if_pos hfew]
    rfl

theorem build_options_two :
    ∃ (r : Round) (luck : Luck),
      (build [Shipped.shapeIsColor, Shipped.shapeShowsNumber] "easy" 1 60 : Turn Unit Round)
        ((), .start fun n => n / 7) = .ok r ((), luck) ∧
      r.options[r.correctIndex]? = some r.statement := by
  have hbuilt : (match (build [Shipped.shapeIsColor, Shipped.shapeShowsNumber] "easy" 1 60 : Turn Unit Round)
      ((), .start fun n => n / 7) with
    | .ok _ _ => true
    | .error _ _ => false) = true := by decide +kernel
  cases h : (build [Shipped.shapeIsColor, Shipped.shapeShowsNumber] "easy" 1 60 : Turn Unit Round)
      ((), .start fun n => n / 7) with
  | ok r st =>
    obtain ⟨_, _, _, _, _, _, _, _, _, _, _, _, _, _, _, _, _, hindex, _⟩ := (build_options _ _ _ _ _ _).1 r st h
    exact ⟨r, st.2, rfl, hindex⟩
  | error e st =>
    rw [h] at hbuilt
    cases hbuilt

end ShapePuzzle.Round
