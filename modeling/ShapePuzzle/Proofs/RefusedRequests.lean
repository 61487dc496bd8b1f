import ShapePuzzle.Proofs.SessionScores
import ShapePuzzle.Proofs.StandardAnswers

/-!
# Requests that fail

A request that is not answered with success leaves every session as it was, but for one case: a round is kept before
it is shown, and one that cannot be shown is answered as an internal error and stays kept.
-/
namespace ShapePuzzle

def Response.Succeeds (r : Response) : Prop := 200 ≤ r.status ∧ r.status < 300

instance (r : Response) : Decidable r.Succeeds := inferInstanceAs (Decidable (_ ∧ _))

/-- What succeeds still does once it is sent, if it can be sent. -/
theorem Response.Succeeds.sent_iff {r : Response} (h : r.Succeeds) : r.sent.Succeeds ↔ r.body.isStandard = true := by
  unfold sent
  split
  · rename_i hbody
    exact iff_of_true h hbody
  · rename_i hbody
    exact iff_of_false (by simp [Succeeds, internalError]) hbody

namespace Lobby
variable {l : Lobby} {luck : Luck} {id : SessionId} {s : Session} {st : Lobby × Luck}
  {Q : Response → Lobby × Luck → Prop} {E : Fault → Lobby × Luck → Prop}

/-- The request keeps a round that cannot be shown. -/
def Unshown (l : Lobby) (luck : Luck) (request : Request) : Prop :=
  ∃ id s r grid, l.commit? luck request = some (id, .played r grid) ∧ l.find? id = some s ∧
    ¬ (s.startRound r grid).Shown

theorem unshown_iff {request : Request} {c : Commit} (h : l.commit? luck request = some (id, c)) :
    l.Unshown luck request ↔ ∃ s r grid, c = .played r grid ∧ l.find? id = some s ∧
      ¬ (s.startRound r grid).Shown := by
  constructor
  · rintro ⟨id', s, r, grid, hcommit, hfind, hs⟩
    rw [h] at hcommit
    cases hcommit
    exact ⟨s, r, grid, rfl, hfind, hs⟩
  · rintro ⟨s, r, grid, rfl, hfind, hs⟩
    exact ⟨id, s, r, grid, h, hfind, hs⟩

section Turns

private theorem meets_found {work : Session → Turn Lobby Response} (hfind : l.find? id = some s)
    (h : Turn.Meets (work s) (l, luck) Q E) : Turn.Meets (withSession id work) (l, luck) Q E := by
  refine .bind_subject ?_
  simp only [hfind]
  exact h

private theorem meets_recovered {recovery : Fault → Response} {work : Turn Lobby Response}
    (h : Turn.Meets work st Q fun _ _ => False) : Turn.Meets (recover recovery work) st Q E := by
  unfold Turn.Meets at h ⊢
  simp only [recover]
  cases hwork : work st with
  | ok a st' => simpa only [hwork] using h
  | error e st' =>
    rw [hwork] at h
    exact h.elim

private theorem meets_kept {reply : Response} (h : s.isStorable = true) {P : Response → Prop} (hP : P reply) :
    Turn.Meets (keep s reply) st (fun r _ => P r) E := by
  unfold keep
  rw [h]
  exact .bind_subject (.bind_become (.pure hP))

private theorem meets_opened {fresh : SessionId} {tier : String} (h : (Session.create fresh tier).isStorable = true) :
    Turn.Meets (enter fresh tier) st (fun r _ => r.sent.Succeeds) E := by
  unfold enter
  simp only [h]
  refine .bind_subject (.bind_become (.pure ?_))
  exact (Response.Succeeds.sent_iff (by simp [Response.Succeeds])).2 (Session.isStandard_stats h)

private theorem meets_guessed {guess : String} (hopen : s.hasOpenRound = true)
    (h : (s.guess (s.correctStatement = some guess)).isStorable = true) :
    Turn.Meets (scoreGuess guess s) st (fun r _ => r.sent.Succeeds) E := by
  unfold scoreGuess
  rw [hopen]
  refine meets_kept h ?_
  refine (Response.Succeeds.sent_iff (by simp [Response.Succeeds])).2 ?_
  have htext := Session.hasHalf_correctStatement h
  simp only [Value.isStandard, Value.fieldsAreStandard, Session.isStandard_stats h, htext]
  decide

private theorem meets_moved {tier : String} (h : (s.changeTier tier).isStorable = true) :
    Turn.Meets (moveTo tier s) st (fun r _ => r.sent.Succeeds) E :=
  meets_kept h ((Response.Succeeds.sent_iff (by simp [Response.Succeeds])).2 (Session.isStandard_stats h))

/-- A round that was built and is kept is answered with success just if it can be shown. -/
private theorem meets_played {r : Round} {grid : List Value} (hrun : buildRound s.tier (l, luck) = .ok (r, grid) st)
    (h : (s.startRound r grid).isStorable = true) :
    Turn.Meets (playRound s) (l, luck) (fun r' _ => r'.sent.Succeeds ↔ (s.startRound r grid).Shown) E := by
  refine .bind (Q := fun p _ => p = (r, grid)) (.of_run (fun p st' hp => ?_) fun e st' he => ?_) ?_
  · rw [hrun] at hp
    cases hp
    rfl
  · rw [hrun] at he
    cases he
  · rintro _ st' rfl
    refine meets_kept h ?_
    cases hshown : (s.startRound r grid).shownRound with
    | good body =>
      rw [Response.Succeeds.sent_iff (by simp [Response.Succeeds])]
      simp [Session.Shown, hshown]
    | bad issues =>
      have hfailed : ¬ Response.internalError.sent.Succeeds := by decide
      exact iff_of_false hfailed (by simp [Session.Shown, hshown])

private theorem isStorable_of_stored? {c c' : Commit} (h : c.stored? s = some c') :
    (c'.applied s).isStorable = true := by
  have hc := eq_of_stored? h
  simp only [Commit.stored?, Option.ite_none_right_eq_some] at h
  exact hc ▸ h.1

private theorem exists_run_of_played? {c : Commit} (h : s.played? l luck = some c) : ∃ r grid st,
    c = .played r grid ∧ buildRound s.tier (l, luck) = .ok (r, grid) st ∧
      (s.startRound r grid).isStorable = true := by
  obtain ⟨⟨r, grid⟩, hround, h⟩ := Option.bind_eq_some_iff.1 h
  have hstored : (Commit.played r grid).stored? s = some c := h
  have hstorable := isStorable_of_stored? hstored
  obtain rfl := eq_of_stored? hstored
  unfold Turn.result? at hround
  cases hrun : buildRound s.tier (l, luck) with
  | ok p st =>
    rw [hrun] at hround
    cases hround
    exact ⟨r, grid, st, rfl, rfl, hstorable⟩
  | error e st =>
    rw [hrun] at hround
    cases hround

private theorem snapshot_of_buildRound {tier : String} {r : Round} {grid : List Value} {st st' : Lobby × Luck}
    (h : buildRound tier st = .ok (r, grid) st') : r.grid.snapshot = .ok grid := by
  obtain ⟨b, st₁, -, h⟩ := Turn.bind_eq_ok.1 h
  obtain ⟨r', st₂, -, h⟩ := Turn.bind_eq_ok.1 h
  obtain ⟨grid', st₃, hgrid, h⟩ := Turn.bind_eq_ok.1 h
  obtain ⟨⟨⟩, -⟩ := Turn.pure_eq_ok.1 h
  exact (Turn.ofExcept_eq_ok.1 hgrid).1

/-- A request that commits something is answered with success, unless that is a round that cannot be shown. -/
theorem meets_answer_of_commit? {request : Request} {c : Commit} (h : l.commit? luck request = some (id, c)) :
    Turn.Meets (answer request) (l, luck) (fun r _ => r.Succeeds ↔ ¬ l.Unshown luck request) E := by
  have hshown : (∀ r grid, c ≠ .played r grid) → ¬ l.Unshown luck request := by
    intro hc hunshown
    obtain ⟨s, r, grid, hplayed, -⟩ := (unshown_iff h).1 hunshown
    exact hc r grid hplayed
  have hserved := h
  unfold commit? at hserved
  unfold answer
  cases hastray : astray? request with
  | some r => simp [hastray] at hserved
  | none =>
    rw [hastray] at hserved
    refine .bind (Q := fun r _ => r.sent.Succeeds ↔ ¬ l.Unshown luck request) ?_ fun r _ hr => .pure hr
    cases request with
    | create fresh body =>
      obtain ⟨tier, hasked, hc⟩ := Option.bind_eq_some_iff.1 hserved
      simp only [Option.ite_none_right_eq_some, Option.some.injEq] at hc
      obtain ⟨hstorable, ⟨⟩⟩ := hc
      simp only [serve, eq_ok_of_toOption hasked, accepted]
      exact (meets_opened hstorable).mono (fun _ _ hr => iff_of_true hr (hshown (by simp))) fun _ _ he => he
    | round path =>
      obtain ⟨id', hasked, hc⟩ := Option.bind_eq_some_iff.1 hserved
      obtain ⟨rfl, s, hfind, hplayed⟩ := toSession?_eq_some hc
      obtain ⟨r, grid, st', rfl, hrun, hstorable⟩ := exists_run_of_played? hplayed
      have hunshown : (s.startRound r grid).Shown ↔ ¬ l.Unshown luck (.round path) := by
        simp only [unshown_iff h, Commit.played.injEq, hfind, Option.some.injEq]
        constructor
        · rintro hs ⟨_, _, _, ⟨rfl, rfl⟩, rfl, hs'⟩
          exact hs' hs
        · intro hs
          by_contra hs'
          exact hs ⟨s, r, grid, ⟨rfl, rfl⟩, rfl, hs'⟩
      simp only [serve, eq_ok_of_toOption hasked, accepted]
      exact meets_recovered (meets_found hfind ((meets_played hrun hstorable).mono
        (fun _ _ hr => hr.trans hunshown) fun _ _ he => he))
    | guess path body =>
      obtain ⟨⟨id', guess⟩, hasked, hc⟩ := Option.bind_eq_some_iff.1 hserved
      obtain ⟨rfl, s, hfind, hguessed⟩ := toSession?_eq_some hc
      simp only [Session.guessed?, Option.ite_none_right_eq_some] at hguessed
      have hstorable := isStorable_of_stored? hguessed.2
      obtain rfl := eq_of_stored? hguessed.2
      simp only [serve, eq_ok_of_toOption hasked, accepted]
      exact meets_found hfind ((meets_guessed hguessed.1 hstorable).mono
        (fun _ _ hr => iff_of_true hr (hshown (by simp))) fun _ _ he => he)
    | changeTier path body =>
      obtain ⟨⟨id', tier⟩, hasked, hc⟩ := Option.bind_eq_some_iff.1 hserved
      obtain ⟨rfl, s, hfind, hmoved⟩ := toSession?_eq_some hc
      have hstorable := isStorable_of_stored? hmoved
      obtain rfl := eq_of_stored? hmoved
      simp only [serve, eq_ok_of_toOption hasked, accepted]
      exact meets_found hfind ((meets_moved hstorable).mono
        (fun _ _ hr => iff_of_true hr (hshown (by simp))) fun _ _ he => he)
    | _ => cases hserved

end Turns

/-- A round that is kept moves the session on. -/
theorem sessions_commit_played_ne {r : Round} {grid : List Value} (hfind : l.find? id = some s) :
    (l.commit id (.played r grid)).sessions ≠ l.sessions := by
  intro heq
  have hid := id_of_find? hfind
  simp only [commit, hfind, put] at heq
  have hs : Commit.applied s (.played r grid) = s := by
    have hmap := List.map_inj_left.1 (heq.trans (List.map_id _).symm) s (mem_of_find? hfind)
    simpa using hmap
  have hpuzzles := congrArg Session.puzzles hs
  simp [Commit.applied, Session.startRound] at hpuzzles

/-- A round that was kept and cannot be shown has a cell with a value outside the domains or offers a text with a
half. -/
theorem Unshown.exists_round {request : Request} (h : l.Unshown luck request) :
    ∃ (path : String) (r : Round) (grid : List Value), request = .round path ∧ r.grid.snapshot = .ok grid ∧
      ¬ (r.grid.Ordinary ∧ ∀ o ∈ r.options, hasHalf o.text = false ∧ hasHalf o.formal = false) := by
  obtain ⟨id, s, r, grid, hcommit, hfind, hunshown⟩ := h
  obtain ⟨path, rfl⟩ : ∃ path, request = .round path := by
    cases commits_of_commit? hcommit with
    | played => exact ⟨_, rfl⟩
  unfold commit? at hcommit
  cases hastray : astray? (.round path) with
  | some _ => simp [hastray] at hcommit
  | none =>
    rw [hastray] at hcommit
    obtain ⟨id', hasked, hc⟩ := Option.bind_eq_some_iff.1 hcommit
    obtain ⟨rfl, s', hfind', hplayed⟩ := toSession?_eq_some hc
    obtain rfl : s' = s := by simpa [hfind'] using hfind
    obtain ⟨_, _, st, ⟨⟩, hrun, hstorable⟩ := exists_run_of_played? hplayed
    have hsnapshot := snapshot_of_buildRound hrun
    exact ⟨path, r, grid, rfl, hsnapshot, fun hplain =>
      hunshown (Session.shown_startRound hstorable hsnapshot hplain.1 hplain.2)⟩

/-- One property is set on all cells. -/
def setting (text : String) (p : Property) (v : String) : Template where
  id := none
  description := none
  placeholders := []
  fields := []
  statement := { text, formal := "F", hint := "" }
  rules := [.implication {
    antecedent := none
    actions := [.set p (.constant (.text v))]
    breakAntecedent := none
    violation := none }]

/-- The first statement gives all cells a number that is a word; the others fail on such a grid. -/
def wordyBank : Bank :=
  [("easy", [setting "All cells show the word many." .number "many", setting "All shapes are squares." .shape "square",
    setting "All shapes are triangles." .shape "triangle", setting "All shapes are green." .color "#7ed957"])]

def wordyOpening : Visit := ⟨.create ⟨7⟩ (some "\x7b\x7d"), .absent, .start fun _ => 0⟩

def wordyRound : Request := .round "00000000-0000-0000-0000-000000000007"

private theorem exists_of_changes (work : Turn Lobby Response) (st : Lobby × Luck) (h : (match work st with
      | .ok r st' => decide (¬ r.Succeeds) &&
        decide (st'.1.sessions.map Session.puzzles ≠ st.1.sessions.map Session.puzzles)
      | .error _ _ => false) = true) :
    ∃ r st', work st = .ok r st' ∧ ¬ r.Succeeds ∧ st'.1.sessions ≠ st.1.sessions := by
  cases hwork : work st with
  | ok r st' =>
    rw [hwork, Bool.and_eq_true, decide_eq_true_eq, decide_eq_true_eq] at h
    exact ⟨r, st', rfl, h.1, fun heq => h.2 (by rw [heq])⟩
  | error e st' =>
    rw [hwork] at h
    cases h

end Lobby
end ShapePuzzle
