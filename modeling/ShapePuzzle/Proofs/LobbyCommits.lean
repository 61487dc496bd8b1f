import ShapePuzzle.Proofs.DistractorSearch
import ShapePuzzle.Proofs.UntouchedParts
import ShapePuzzle.Session.Service

/-!
# What requests commit

A request commits at most one thing to one session, and that is all that it changes about the sessions. A round
that is committed has been built before and offers four statements.
-/
namespace ShapePuzzle

/-- What a request can do to a session. -/
inductive Commit where
  | opened (tier : String)
  | played (r : Round) (grid : List Value)
  | guessed (right : Bool)
  | moved (tier : String)

/-- The session once the commit is made. -/
def Commit.applied (s : Session) : Commit → Session
  | opened tier => .create s.id tier
  | played r grid => s.startRound r grid
  | guessed right => s.guess right
  | moved tier => s.changeTier tier

@[simp] theorem Commit.id_applied (s : Session) (c : Commit) : (c.applied s).id = s.id := by
  cases c <;> rfl

/-- The commit, if what becomes of the session can be stored. -/
def Commit.stored? (s : Session) (c : Commit) : Option Commit :=
  if (c.applied s).isStorable then some c else none

/-- What the turn returns, if it does. -/
def Turn.result? {σ α : Type} (x : Turn σ α) (st : σ × Luck) : Option α :=
  match x st with
  | .ok a _ => some a
  | .error _ _ => none

/-- A round is committed if it can be built. -/
def Session.played? (s : Session) (l : Lobby) (luck : Luck) : Option Commit := do
  let (r, grid) ← (Lobby.buildRound s.tier).result? (l, luck)
  (Commit.played r grid).stored? s

/-- A guess is committed if there is an open round. -/
def Session.guessed? (s : Session) (guess : String) : Option Commit :=
  if s.hasOpenRound then (Commit.guessed (s.correctStatement = some guess)).stored? s else none

/-- The session that a request is about. -/
def Request.target? : Request → Option SessionId
  | .create fresh _ => some fresh
  | request => request.path?.bind SessionId.parse?

namespace Lobby

/-- What is committed to the session of an id, if there is one. -/
def toSession? (l : Lobby) (id : SessionId) (commits? : Session → Option Commit) : Option (SessionId × Commit) :=
  (l.find? id).bind fun s => (commits? s).map (id, ·)

/-- What a request that leads somewhere commits, and to which session. -/
def served? (l : Lobby) (luck : Luck) : Request → Option (SessionId × Commit)
  | .create fresh body => do
    let tier ← (Request.received body Request.newTier).toOption
    if (Session.create fresh tier).isStorable then some (fresh, .opened tier) else none
  | .round path => do
    let id ← (Request.addressed path).toOption
    l.toSession? id fun s => s.played? l luck
  | .guess path body => do
    let (id, guess) ← (Request.addressedWith path body Request.statement).toOption
    l.toSession? id fun s => s.guessed? guess
  | .changeTier path body => do
    let (id, tier) ← (Request.addressedWith path body Request.otherTier).toOption
    l.toSession? id (Commit.moved tier).stored?
  | .index | .stats _ | .hint _ | .figure _ => none

/-- What a request commits, and to which session. -/
def commit? (l : Lobby) (luck : Luck) (request : Request) : Option (SessionId × Commit) :=
  match astray? request with
  | some _ => none
  | none => l.served? luck request

/-- Makes a commit to the session that goes by the id. -/
def commit (l : Lobby) (id : SessionId) : Commit → Lobby
  | .opened tier => l.add (.create id tier)
  | c => match l.find? id with
    | some s => l.put (c.applied s)
    | none => l

def commitAny (l : Lobby) : Option (SessionId × Commit) → Lobby
  | none => l
  | some (id, c) => l.commit id c

variable {l l' : Lobby} {luck luck' : Luck} {id : SessionId} {s : Session}

theorem id_of_find? (h : l.find? id = some s) : s.id = id := by
  simpa using List.find?_some h

theorem mem_of_find? (h : l.find? id = some s) : s ∈ l.sessions := List.mem_of_find?_eq_some h

theorem find?_put_of_ne (h : s.id ≠ id) : (l.put s).find? id = l.find? id := by
  simp only [find?, put]
  induction l.sessions with
  | nil => rfl
  | cons t rest ih =>
    rw [List.map_cons]
    by_cases ht : t.id = s.id
    · rw [if_pos ht, List.find?_cons_of_neg (by simpa using h), List.find?_cons_of_neg (by simpa [ht] using h), ih]
    · rw [if_neg ht, List.find?_cons, List.find?_cons, ih]

/-- A commit to one session leaves the others as they are. -/
theorem find?_commit_of_ne {id' : SessionId} {c : Commit} (h : id' ≠ id) : (l.commit id' c).find? id = l.find? id := by
  have hput : ∀ c : Commit, (match l.find? id' with
      | some s => l.put (c.applied s)
      | none => l).find? id = l.find? id := by
    intro c
    cases hfind : l.find? id' with
    | none => rfl
    | some s => exact find?_put_of_ne (by rwa [Commit.id_applied, id_of_find? hfind])
  cases c with
  | opened tier => simp [commit, add, find?, Session.create, h]
  | _ => exact hput _

theorem keeps_bank : Turn.Keeps Lobby.sessions bank := by
  have hput : ∀ (store : BankStore) (l : Lobby), ({ l with store } : Lobby).sessions = l.sessions := fun _ _ => rfl
  exact .within hput _

theorem keeps_buildRound (tier : String) : Turn.Keeps Lobby.sessions (buildRound tier) :=
  .bind keeps_bank fun b => .bind (Round.keeps_generate b tier _ _) fun _ => .bind (.ofExcept _) fun _ => .pure _

/-- The sessions are those of the lobby with a commit. -/
def Has (l : Lobby) (c? : Option (SessionId × Commit)) (st : Lobby × Luck) : Prop :=
  st.1.sessions = (l.commitAny c?).sessions

section Turns
variable {c? : Option (SessionId × Commit)} {E : Fault → Lobby × Luck → Prop}

private theorem meets_withSession {work : Session → Turn Lobby Response} {f : Session → Option Commit}
    (hwork : ∀ s, l.find? id = some s →
      Turn.Meets (work s) (l, luck) (fun _ => l.Has ((f s).map (id, ·))) E) :
    Turn.Meets (withSession id work) (l, luck) (fun _ => l.Has (l.toSession? id f)) E := by
  refine .bind_subject ?_
  unfold toSession?
  dsimp only
  cases h : l.find? id with
  | none => exact .pure rfl
  | some s => exact hwork s h

private theorem meets_recover {answer : Fault → Response} {work : Turn Lobby Response}
    (h : Turn.Meets work (l, luck) (fun _ => l.Has c?) fun _ => l.Has c?) :
    Turn.Meets (recover answer work) (l, luck) (fun _ => l.Has c?) E := by
  unfold Turn.Meets at h ⊢
  simp only [recover]
  cases hwork : work (l, luck) with
  | ok a st' => simpa only [hwork] using h
  | error e st' => simpa only [hwork] using h

/-- A session that cannot be stored is not kept. -/
private theorem meets_keep {answer : Response} {c : Commit} (hfind : l.find? id = some s)
    (hc : ∀ tier, c ≠ .opened tier) (hsessions : l'.sessions = l.sessions) :
    Turn.Meets (keep (c.applied s) answer) (l', luck') (fun _ => l.Has ((c.stored? s).map (id, ·))) E := by
  have hcommit : l.commit id c = l.put (c.applied s) := by
    cases c with
    | opened tier => exact absurd rfl (hc tier)
    | _ => simp only [commit, hfind]
  unfold keep
  cases h : (c.applied s).isStorable with
  | true =>
    refine .bind_subject (.bind_become (.pure ?_))
    simp only [Has, Commit.stored?, h, if_true, Option.map_some, commitAny, hcommit, put, hsessions]
  | false =>
    refine .pure ?_
    simpa [Has, Commit.stored?, h, commitAny] using hsessions

private theorem meets_enter (fresh : SessionId) (tier : String) :
    Turn.Meets (enter fresh tier) (l, luck)
      (fun _ => l.Has (if (Session.create fresh tier).isStorable then some (fresh, .opened tier) else none)) E := by
  dsimp only [enter]
  cases (Session.create fresh tier).isStorable with
  | true =>
    refine .bind_subject (.bind_become (.pure ?_))
    rfl
  | false =>
    refine .pure ?_
    rfl

private theorem meets_playRound (hfind : l.find? id = some s) :
    Turn.Meets (playRound s) (l, luck) (fun _ => l.Has ((s.played? l luck).map (id, ·)))
      fun _ => l.Has ((s.played? l luck).map (id, ·)) := by
  have hkeeps := keeps_buildRound s.tier
  refine Turn.Meets.bind (Q := fun p st' => buildRound s.tier (l, luck) = .ok p st')
    (.of_run (fun _ _ hrun => hrun) fun e st' hrun => ?_) fun p st' hrun => ?_
  · have hnone : s.played? l luck = none := by simp [Session.played?, Turn.result?, hrun]
    rw [hnone]
    exact hkeeps.error hrun
  · obtain ⟨r, grid⟩ := p
    have hplayed : s.played? l luck = (Commit.played r grid).stored? s := by
      simp [Session.played?, Turn.result?, hrun]
    have hsessions : st'.1.sessions = l.sessions := hkeeps.ok hrun
    obtain ⟨l', luck'⟩ := st'
    rw [hplayed]
    exact meets_keep (c := .played r grid) hfind (fun _ => nofun) hsessions

private theorem meets_scoreGuess (hfind : l.find? id = some s) (guess : String) :
    Turn.Meets (scoreGuess guess s) (l, luck) (fun _ => l.Has ((s.guessed? guess).map (id, ·))) E := by
  unfold scoreGuess Session.guessed?
  cases h : s.hasOpenRound with
  | true => exact meets_keep (c := .guessed _) hfind (fun _ => nofun) rfl
  | false => exact .pure rfl

private theorem meets_read {work : Session → Response} (id : SessionId) :
    Turn.Meets (withSession id fun s => return work s) (l, luck) (fun _ => l.Has none) E := by
  refine .bind_subject ?_
  dsimp only
  split
  · exact .pure rfl
  · exact .pure rfl

private theorem meets_recover_of_keeps {answer : Fault → Response} {work : Turn Lobby Response}
    (h : Turn.Keeps Lobby.sessions work) :
    Turn.Meets (recover answer work) (l, luck) (fun _ => l.Has none) E :=
  meets_recover (.of_run (fun _ _ hrun => h.ok hrun) fun _ _ hrun => h.error hrun)

private theorem keeps_showFigure (id : SessionId) : Turn.Keeps Lobby.sessions (withSession id showFigure) := by
  have hshow : ∀ s, Turn.Keeps Lobby.sessions (showFigure s) := by
    intro s
    unfold showFigure
    split
    · exact .pure _
    · exact .pure _
    · exact .bind (.ofExcept _) fun _ => .bind (.ofExcept _) fun _ => .pure _
  refine .bind .subject fun l => ?_
  split
  · exact hshow _
  · exact .pure _

private theorem meets_accepted {α : Type} {asked : Except Refusal α} {work : α → Turn Lobby Response}
    {commits? : α → Option (SessionId × Commit)}
    (h : ∀ a, Turn.Meets (work a) (l, luck) (fun _ => l.Has (commits? a)) E) :
    Turn.Meets (accepted asked work) (l, luck) (fun _ => l.Has (asked.toOption.bind commits?)) E := by
  cases asked with
  | ok a => exact h a
  | error r => exact .pure rfl

private theorem meets_accepted_none {α : Type} {asked : Except Refusal α} {work : α → Turn Lobby Response}
    (h : ∀ a, Turn.Meets (work a) (l, luck) (fun _ => l.Has none) E) :
    Turn.Meets (accepted asked work) (l, luck) (fun _ => l.Has none) E := by
  simpa using meets_accepted h

private theorem meets_serve (request : Request) :
    Turn.Meets (serve request) (l, luck) (fun _ => l.Has (l.served? luck request)) E := by
  cases request with
  | index => exact meets_recover_of_keeps (.bind keeps_bank fun _ => .pure _)
  | create fresh body => exact meets_accepted fun tier => meets_enter fresh tier
  | stats path => exact meets_accepted_none meets_read
  | round path =>
    refine meets_accepted fun id => meets_recover (meets_withSession fun s hs => ?_)
    refine (meets_playRound hs).mono (fun _ _ h => h) fun _ _ h => ?_
    simpa [toSession?, hs] using h
  | guess path body => exact meets_accepted fun asked => meets_withSession fun s hs => meets_scoreGuess hs asked.2
  | hint path => exact meets_accepted_none meets_read
  | changeTier path body =>
    exact meets_accepted fun asked => meets_withSession fun s hs =>
      meets_keep (c := .moved asked.2) hs (fun _ => nofun) rfl
  | figure path => exact meets_accepted_none fun id => meets_recover_of_keeps (keeps_showFigure id)

/-- Every request is answered, and the sessions are then those that were there with what it committed. -/
theorem meets_answer (request : Request) :
    Turn.Meets (answer request) (l, luck) (fun _ => l.Has (l.commit? luck request)) E := by
  unfold answer commit?
  cases astray? request with
  | some r => exact .pure rfl
  | none => exact (meets_serve request).bind fun _ _ h => .pure h

end Turns
end Lobby

namespace Round
variable {r : Round}

/-- Four statements are offered, with texts of their own, and the one that was drawn first is among them. -/
structure Offers (r : Round) : Prop where
  four : r.options.length = 4
  distinct : (r.options.map Statement.text).Nodup
  shown : r.statement ∈ r.options

theorem offers_of_build {σ : Type} {bank : List Template} {tier : String} {attempts : Int} {st st' : σ × Luck}
    (h : (build bank tier defaultWanted attempts : Turn σ Round) st = .ok r st') : r.Offers := by
  obtain ⟨k, st₁, st₂, st₃, st₄, found, -, -, -, -, hfound, hmany, hshuffle⟩ := build_runs h
  obtain ⟨⟨ds, hds⟩, hfew⟩ := Search.run_spec (.start bank r.grid st₃.2.source k r.statement) rfl (Nat.zero_le _) hfound
  have hperm := (shuffle_spec hshuffle).1
  have htexts : ((r.statement :: found.accepted).map Statement.text).Nodup := by
    have hdistinct := hds.distinct
    rw [hds.texts, ← List.nodup_reverse, List.reverse_append, List.reverse_reverse] at hdistinct
    rw [List.map_cons, hds.accepted, List.map_map]
    exact hdistinct
  refine ⟨?_, (hperm.map Statement.text).nodup_iff.2 htexts, hperm.mem_iff.2 List.mem_cons_self⟩
  have hlength : found.accepted.length = 3 := by
    simp only [defaultWanted] at hmany hfew
    omega
  rw [hperm.length_eq, List.length_cons, hlength]

end Round

namespace Request
variable {path : String} {id : SessionId}

theorem readId_eq_good : readId path = .good id ↔ SessionId.parse? path = some id := by
  unfold readId
  cases SessionId.parse? path with
  | none => simp
  | some id' => simp

theorem parse?_of_addressed (h : addressed path = .ok id) : SessionId.parse? path = some id := by
  unfold addressed at h
  cases hid : readId path with
  | good id' =>
    rw [hid] at h
    cases h
    exact readId_eq_good.1 hid
  | bad issues =>
    rw [hid] at h
    cases h

theorem parse?_of_addressedWith {α : Type} {body : Option String} {read : Fields Value → Checked α} {a : α}
    (h : addressedWith path body read = .ok (id, a)) : SessionId.parse? path = some id := by
  obtain ⟨v, -, h⟩ := except_bind_eq_ok.1 h
  cases hid : readId path with
  | good id' =>
    have hgood : id' = id := by
      cases hbody : readBody read v with
      | good a' =>
        simp only [hid, hbody, Functor.map, Checked.map, Seq.seq, Checked.apply] at h
        cases h
        rfl
      | bad issues =>
        simp only [hid, hbody, Functor.map, Checked.map, Seq.seq, Checked.apply] at h
        cases h
    exact readId_eq_good.1 (hgood ▸ hid)
  | bad issues =>
    cases hbody : readBody read v with
    | good a' =>
      simp only [hid, hbody, Functor.map, Checked.map, Seq.seq, Checked.apply] at h
      cases h
    | bad issues' =>
      simp only [hid, hbody, Functor.map, Checked.map, Seq.seq, Checked.apply] at h
      cases h

end Request

namespace Lobby
variable {l : Lobby} {luck : Luck} {id : SessionId}

theorem offers_of_buildRound {tier : String} {r : Round} {grid : List Value} {st st' : Lobby × Luck}
    (h : buildRound tier st = .ok (r, grid) st') : r.Offers := by
  obtain ⟨b, st₁, -, h⟩ := Turn.bind_eq_ok.1 h
  obtain ⟨r', st₂, hround, h⟩ := Turn.bind_eq_ok.1 h
  obtain ⟨grid', st₃, -, h⟩ := Turn.bind_eq_ok.1 h
  obtain ⟨⟨⟩, -⟩ := Turn.pure_eq_ok.1 h
  obtain ⟨⟨tier, templates⟩, st₄, -, hbuild⟩ := Turn.bind_eq_ok.1 hround
  exact Round.offers_of_build hbuild

/-- Which request commits what, and what is then known of the session. -/
inductive Commits (l : Lobby) : Request → SessionId → Commit → Prop
  | opened (fresh : SessionId) (body : Option String) (tier : String) :
    Commits l (.create fresh body) fresh (.opened tier)
  | played {path : String} {id : SessionId} {s : Session} {r : Round} {grid : List Value}
    (hpath : SessionId.parse? path = some id) (hfind : l.find? id = some s) (hr : r.Offers) :
    Commits l (.round path) id (.played r grid)
  | guessed {path : String} {body : Option String} {id : SessionId} {s : Session} {right : Bool}
    (hpath : SessionId.parse? path = some id) (hfind : l.find? id = some s) (hopen : s.hasOpenRound = true) :
    Commits l (.guess path body) id (.guessed right)
  | moved {path : String} {body : Option String} {id : SessionId} {s : Session} {tier : String}
    (hpath : SessionId.parse? path = some id) (hfind : l.find? id = some s) :
    Commits l (.changeTier path body) id (.moved tier)

theorem Commits.target?_eq {request : Request} {c : Commit} (h : l.Commits request id c) :
    request.target? = some id := by
  cases h with
  | opened fresh body tier => rfl
  | played hpath hfind hr => exact hpath
  | guessed hpath hfind hopen => exact hpath
  | moved hpath hfind => exact hpath

theorem toSession?_eq_some {commits? : Session → Option Commit} {id' : SessionId} {c : Commit}
    (h : l.toSession? id' commits? = some (id, c)) : id' = id ∧ ∃ s, l.find? id = some s ∧ commits? s = some c := by
  obtain ⟨s, hs, h⟩ := Option.bind_eq_some_iff.1 h
  obtain ⟨c', hc, ⟨⟩⟩ := Option.map_eq_some_iff.1 h
  exact ⟨rfl, s, hs, hc⟩

theorem eq_of_stored? {s : Session} {c c' : Commit} (h : c.stored? s = some c') : c = c' := by
  simp only [Commit.stored?, Option.ite_none_right_eq_some, Option.some.injEq] at h
  exact h.2

theorem eq_ok_of_toOption {ε α : Type} {x : Except ε α} {a : α} (h : x.toOption = some a) : x = .ok a := by
  cases x with
  | ok a' =>
    cases h
    rfl
  | error e => cases h

private theorem exists_of_played? {s : Session} {c : Commit} (h : s.played? l luck = some c) :
    ∃ r grid, c = .played r grid ∧ r.Offers := by
  obtain ⟨⟨r, grid⟩, hround, h⟩ := Option.bind_eq_some_iff.1 h
  refine ⟨r, grid, (eq_of_stored? h).symm, ?_⟩
  unfold Turn.result? at hround
  cases hrun : buildRound s.tier (l, luck) with
  | ok p st' =>
    rw [hrun] at hround
    cases hround
    exact offers_of_buildRound hrun
  | error e st' =>
    rw [hrun] at hround
    cases hround

theorem commits_of_commit? {request : Request} {c : Commit} (h : l.commit? luck request = some (id, c)) :
    l.Commits request id c := by
  unfold commit? at h
  cases hastray : astray? request with
  | some r => simp [hastray] at h
  | none =>
    rw [hastray] at h
    cases request with
    | create fresh body =>
      obtain ⟨tier, -, h⟩ := Option.bind_eq_some_iff.1 h
      simp only [Option.ite_none_right_eq_some, Option.some.injEq] at h
      obtain ⟨-, ⟨⟩⟩ := h
      exact .opened _ body tier
    | round path =>
      obtain ⟨id', hid, h⟩ := Option.bind_eq_some_iff.1 h
      obtain ⟨rfl, s, hs, hplayed⟩ := toSession?_eq_some h
      obtain ⟨r, grid, rfl, hr⟩ := exists_of_played? hplayed
      exact .played (Request.parse?_of_addressed (eq_ok_of_toOption hid)) hs hr
    | guess path body =>
      obtain ⟨⟨id', guess⟩, hid, h⟩ := Option.bind_eq_some_iff.1 h
      obtain ⟨rfl, s, hs, hguessed⟩ := toSession?_eq_some h
      simp only [Session.guessed?, Option.ite_none_right_eq_some] at hguessed
      obtain rfl := eq_of_stored? hguessed.2
      exact .guessed (Request.parse?_of_addressedWith (eq_ok_of_toOption hid)) hs hguessed.1
    | changeTier path body =>
      obtain ⟨⟨id', tier⟩, hid, h⟩ := Option.bind_eq_some_iff.1 h
      obtain ⟨rfl, s, hs, hmoved⟩ := toSession?_eq_some h
      obtain rfl := eq_of_stored? hmoved
      exact .moved (Request.parse?_of_addressedWith (eq_ok_of_toOption hid)) hs
    | _ => cases h

end Lobby
end ShapePuzzle
