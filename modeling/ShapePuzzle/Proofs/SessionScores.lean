import ShapePuzzle.Proofs.LobbyCommits

/-!
# The score of a session and its history

The history lists what was committed to which session, the latest commit first. What a session keeps is told by the
commits to it since it was opened or last moved to another tier.
-/
namespace ShapePuzzle

namespace Commit

/-- Whether nothing of what came before the commit counts any longer. -/
def resets : Commit → Bool
  | opened _ | moved _ => true
  | played _ _ | guessed _ => false

def round? : Commit → Option (Round × List Value)
  | played r grid => some (r, grid)
  | _ => none

def guess? : Commit → Option Bool
  | guessed right => some right
  | _ => none

/-- The commits to a session after the one that opened it or moved it last. -/
def since (id : SessionId) (history : List (SessionId × Commit)) : List Commit :=
  ((history.filter fun e => e.1 = id).map Prod.snd).takeWhile fun c => !c.resets

/-- The rounds among the commits, with their grids written down. -/
def rounds (cs : List Commit) : List (Round × List Value) := cs.filterMap round?

/-- Whether the guesses among the commits were right. -/
def guesses (cs : List Commit) : List Bool := cs.filterMap guess?

/-- How many guesses were right since the last wrong one. -/
def streak (cs : List Commit) : Nat := ((guesses cs).takeWhile id).length

/-- Every guess comes directly after a round, so that no round is guessed on twice. -/
def GuessedOnce : List Commit → Prop
  | [] => True
  | guessed _ :: cs => (∃ r grid earlier, cs = played r grid :: earlier) ∧ GuessedOnce cs
  | _ :: cs => GuessedOnce cs

section History
variable {id : SessionId} {c : Commit} {history : List (SessionId × Commit)}

theorem since_cons_of_ne {id' : SessionId} (h : id' ≠ id) : since id ((id', c) :: history) = since id history := by
  simp [since, h]

theorem since_cons_of_resets (h : c.resets = true) : since id ((id, c) :: history) = [] := by
  simp [since, h]

theorem since_cons (h : c.resets = false) : since id ((id, c) :: history) = c :: since id history := by
  simp [since, h]

end History

variable {cs : List Commit}

@[simp] theorem rounds_played (r : Round) (grid : List Value) : rounds (played r grid :: cs) = (r, grid) :: rounds cs :=
  rfl

@[simp] theorem guesses_guessed (right : Bool) : guesses (guessed right :: cs) = right :: guesses cs := rfl

/-- There are no more guesses than rounds, and fewer if the last commit is a round. -/
theorem GuessedOnce.guesses_le (h : GuessedOnce cs) : (guesses cs).length ≤ (rounds cs).length ∧
    ((∃ r grid earlier, cs = played r grid :: earlier) → (guesses cs).length < (rounds cs).length) := by
  induction cs with
  | nil => exact ⟨Nat.le_refl _, by simp⟩
  | cons c cs ih =>
    cases c with
    | opened tier => exact ⟨(ih h).1, by simp⟩
    | moved tier => exact ⟨(ih h).1, by simp⟩
    | played r grid =>
      have hle : (guesses (played r grid :: cs)).length ≤ (rounds cs).length := (ih h).1
      simp only [rounds_played, List.length_cons]
      omega
    | guessed right =>
      have hlt : (guesses cs).length < (rounds (guessed right :: cs)).length := (ih h.2).2 h.1
      refine ⟨by rw [guesses_guessed, List.length_cons]; omega, by simp⟩

/-- A streak is part of the right guesses. -/
theorem streak_le (cs : List Commit) : streak cs ≤ (guesses cs).count true := by
  have hall : ((guesses cs).takeWhile id).count true = streak cs :=
    List.count_eq_length.2 fun b hb => (List.all_eq_true.1 List.all_takeWhile b hb).symm
  rw [← hall]
  exact (List.takeWhile_sublist _).count_le _

end Commit

open Commit

/-- What a session keeps is told by its commits, the latest first. -/
structure Session.Tallies (s : Session) (cs : List Commit) : Prop where
  puzzles : s.puzzles = (rounds cs).length
  correct : s.correct = (guesses cs).count true
  streak : s.streak = Commit.streak cs
  once : GuessedOnce cs
  openRound : s.hasOpenRound = true → ∃ r grid earlier, cs = played r grid :: earlier
  grid : s.grid = (rounds cs).head?.map Prod.snd
  options : s.options = (rounds cs).head?.map fun p => p.1.options.map fun o => ⟨o.text, o.formal⟩
  statement : s.correctStatement = (rounds cs).head?.map fun p => p.1.statement.text
  offers : ∀ p ∈ rounds cs, p.1.Offers

namespace Session.Tallies
variable {s : Session} {cs : List Commit}

theorem create (id : SessionId) (tier : String) : (Session.create id tier).Tallies [] := by
  constructor <;> simp [Session.create, rounds, guesses, Commit.streak, GuessedOnce, hasOpenRound]

theorem startRound (h : s.Tallies cs) {r : Round} (hr : r.Offers) (grid : List Value) :
    (s.startRound r grid).Tallies (.played r grid :: cs) where
  puzzles := by simp [Session.startRound, h.puzzles]
  correct := h.correct
  streak := h.streak
  once := h.once
  openRound _ := ⟨r, grid, cs, rfl⟩
  grid := rfl
  options := rfl
  statement := rfl
  offers := List.forall_mem_cons.2 ⟨hr, h.offers⟩

theorem guess (h : s.Tallies cs) (hopen : s.hasOpenRound = true) (right : Bool) :
    (s.guess right).Tallies (.guessed right :: cs) where
  puzzles := h.puzzles
  correct := by
    cases right with
    | true => simp [Session.guess, h.correct]
    | false => simp [Session.guess, h.correct]
  streak := by
    cases right with
    | true => simp [Session.guess, h.streak, Commit.streak]
    | false => simp [Session.guess, Commit.streak]
  once := ⟨h.openRound hopen, h.once⟩
  openRound := by simp [Session.guess, hasOpenRound]
  grid := h.grid
  options := h.options
  statement := h.statement
  offers := h.offers

theorem counts_le (h : s.Tallies cs) :
    s.streak ≤ s.correct ∧ s.correct ≤ s.puzzles ∧ (s.hasOpenRound = true → s.correct < s.puzzles) := by
  obtain ⟨hle, hlt⟩ := h.once.guesses_le
  have hcorrect : (guesses cs).count true ≤ (guesses cs).length := List.count_le_length
  rw [h.puzzles, h.correct, h.streak]
  refine ⟨streak_le cs, by omega, fun hopen => ?_⟩
  have hfewer := hlt (h.openRound hopen)
  omega

/-- Nothing is shown before the first round. -/
theorem none_iff (h : s.Tallies cs) : (s.correctStatement = none ↔ s.puzzles = 0) ∧ (s.grid = none ↔ s.puzzles = 0) ∧
    (s.options = none ↔ s.puzzles = 0) := by
  simp [h.statement, h.grid, h.options, h.puzzles]

/-- What is shown are four options with texts of their own, one of them with the text of the correct statement. -/
theorem options_spec (h : s.Tallies cs) {options : List AnswerOption} {text : String}
    (hoptions : s.options = some options) (htext : s.correctStatement = some text) :
    options.length = 4 ∧ (options.map AnswerOption.text).Nodup ∧ (options.map AnswerOption.text).count text = 1 := by
  rw [h.options] at hoptions
  rw [h.statement] at htext
  cases hrounds : rounds cs with
  | nil => simp [hrounds] at htext
  | cons p ps =>
    have hoffers := h.offers p (by simp [hrounds])
    simp only [hrounds, List.head?_cons, Option.map_some, Option.some.injEq] at hoptions htext
    subst hoptions htext
    have htexts : (p.1.options.map fun o => (⟨o.text, o.formal⟩ : AnswerOption)).map AnswerOption.text =
        p.1.options.map Statement.text := by simp
    rw [htexts]
    refine ⟨by simpa using hoffers.four, hoffers.distinct, ?_⟩
    exact List.count_eq_one_of_mem hoffers.distinct (List.mem_map.2 ⟨_, hoffers.shown, rfl⟩)

end Session.Tallies

/-- Every session is told by its own commits, and no two go by one id. -/
structure Scored (history : List (SessionId × Commit)) (sessions : List Session) : Prop where
  distinct : (sessions.map Session.id).Nodup
  tallies : ∀ s ∈ sessions, s.Tallies (since s.id history)

namespace Lobby
variable {l : Lobby} {history : List (SessionId × Commit)} {id : SessionId} {c : Commit} {s : Session}

/-- A commit to one session is no commit to the others. -/
private theorem scored_put (h : Scored history l.sessions) (hfind : l.find? id = some s)
    (hs : (c.applied s).Tallies (since id ((id, c) :: history))) :
    Scored ((id, c) :: history) (l.put (c.applied s)).sessions := by
  have hid : (c.applied s).id = id := by rw [id_applied, id_of_find? hfind]
  constructor
  · have hids : (l.put (c.applied s)).sessions.map Session.id = l.sessions.map Session.id := by
      simp only [put, List.map_map]
      refine List.map_congr_left fun t _ => ?_
      simp only [Function.comp_apply]
      split
      · rename_i ht
        exact ht.symm
      · rfl
    rw [hids]
    exact h.distinct
  · intro t ht
    obtain ⟨t, hmem, rfl⟩ := List.mem_map.1 ht
    split
    · rw [hid]
      exact hs
    · rename_i hne
      rw [since_cons_of_ne fun heq => hne (heq.symm.trans hid.symm)]
      exact h.tallies t hmem

/-- Whatever a request commits, the history tells what is kept. -/
theorem scored_commit (h : Scored history l.sessions) {request : Request} (hc : l.Commits request id c)
    (hfresh : ∀ fresh body, request = .create fresh body → l.find? fresh = none) :
    Scored ((id, c) :: history) (l.commit id c).sessions := by
  cases hc with
  | opened _ body tier =>
    have hnew : ∀ s ∈ l.sessions, s.id ≠ id := by
      simpa [find?] using hfresh id body rfl
    constructor
    · simp only [commit, add, List.map_append, List.map_cons, List.map_nil]
      refine List.nodup_append.2 ⟨h.distinct, by simp, ?_⟩
      simpa [Session.create] using hnew
    · intro s hs
      rcases List.mem_append.1 hs with hs | hs
      · rw [since_cons_of_ne fun heq => hnew s hs heq.symm]
        exact h.tallies s hs
      · obtain rfl := List.mem_singleton.1 hs
        rw [Session.create, since_cons_of_resets rfl]
        exact .create id tier
  | played hpath hfind hr =>
    simp only [commit, hfind]
    refine scored_put h hfind ?_
    rw [since_cons rfl, ← id_of_find? hfind]
    exact (h.tallies _ (mem_of_find? hfind)).startRound hr _
  | guessed hpath hfind hopen =>
    simp only [commit, hfind]
    refine scored_put h hfind ?_
    rw [since_cons rfl, ← id_of_find? hfind]
    exact (h.tallies _ (mem_of_find? hfind)).guess hopen _
  | moved hpath hfind =>
    simp only [commit, hfind]
    refine scored_put h hfind ?_
    rw [since_cons_of_resets rfl]
    exact .create _ _

end Lobby

/-- A request with the bank file and the luck that it finds. -/
structure Visit where
  request : Request
  file : BankFile
  luck : Luck

namespace Lobby
variable {l : Lobby} {history : List (SessionId × Commit)}

/-- Another file in the place of the one the bank would be read from. -/
def withFile (l : Lobby) (file : BankFile) : Lobby := { l with store := l.store.replace file }

/-- The lobby after a visit. -/
def next (l : Lobby) (v : Visit) : Lobby :=
  match answer v.request (l.withFile v.file, v.luck) with
  | .ok _ st | .error _ st => st.1

/-- What is committed by a visit. -/
def visit? (l : Lobby) (v : Visit) : Option (SessionId × Commit) :=
  (l.withFile v.file).commit? v.luck v.request

/-- The lobbies that visits lead to, one after another, from a lobby without sessions, with the history of all
commits, the latest first. No session is opened under an id that is taken. -/
inductive Reached : List (SessionId × Commit) → Lobby → Prop
  | start (store : BankStore) : Reached [] ⟨[], store⟩
  | visit {history : List (SessionId × Commit)} {l : Lobby} (v : Visit) (h : Reached history l)
    (hfresh : ∀ fresh body, v.request = .create fresh body → l.find? fresh = none) :
    Reached ((l.visit? v).toList ++ history) (l.next v)

/-- What a visit commits is all that it changes about the sessions. -/
theorem sessions_next (l : Lobby) (v : Visit) :
    (l.next v).sessions = ((l.withFile v.file).commitAny (l.visit? v)).sessions := by
  have hanswer : Turn.Meets (answer v.request) (l.withFile v.file, v.luck)
      (fun _ => (l.withFile v.file).Has (l.visit? v)) fun _ _ => False := meets_answer v.request
  unfold next
  cases hrun : answer v.request (l.withFile v.file, v.luck) with
  | ok r st => exact hanswer.ok hrun
  | error e st => exact (hanswer.error hrun).elim

theorem scored_of_reached (h : Reached history l) : Scored history l.sessions := by
  induction h with
  | start store => exact ⟨List.nodup_nil, by simp⟩
  | @visit history l v _ hfresh ih =>
    rw [sessions_next]
    cases hc : l.visit? v with
    | none => exact ih
    | some e =>
      obtain ⟨id, c⟩ := e
      exact scored_commit (l := l.withFile v.file) ih (commits_of_commit? hc) hfresh

/-- A visit changes no session but the one that its request is about. -/
theorem find?_next_of_ne (l : Lobby) {v : Visit} {id : SessionId} (h : v.request.target? ≠ some id) :
    (l.next v).find? id = l.find? id := by
  have hsessions := sessions_next l v
  cases hc : l.visit? v with
  | none =>
    rw [hc] at hsessions
    simp only [find?, hsessions]
    rfl
  | some e =>
    obtain ⟨id', c⟩ := e
    have hcommits := commits_of_commit? hc
    have hne : id' ≠ id := fun heq => h (heq ▸ hcommits.target?_eq)
    rw [hc] at hsessions
    simp only [find?, hsessions]
    exact find?_commit_of_ne hne

/-- A path that leads somewhere is served. -/
theorem next_of_astray? {v : Visit} (h : astray? v.request = none) :
    l.next v = match serve v.request (l.withFile v.file, v.luck) with
      | .ok _ st | .error _ st => st.1 := by
  unfold next answer
  simp only [h, bind, EStateM.bind]
  cases serve v.request (l.withFile v.file, v.luck) with
  | ok r st => rfl
  | error e st => rfl

/-- A visit on the bank that comes with the game, with a luck of its own. -/
def onShipped (request : Request) : Visit := ⟨request, .shipped, .start fun n => n / 7⟩

def opening : Visit := onShipped (.create ⟨7⟩ (some "\x7b\x7d"))

def firstRound : Visit := onShipped (.round "00000000-0000-0000-0000-000000000007")

def pinkGuess : Visit :=
  onShipped (.guess "00000000-0000-0000-0000-000000000007"
    (some "\x7b\"statement\": \"All circles are Pink.\"\x7d"))

end Lobby
end ShapePuzzle
