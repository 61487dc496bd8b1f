import ShapePuzzle.Proofs.DeclaredReferences
import ShapePuzzle.Proofs.RefusedRequests

/-!
# Faults of rounds

The game has names for what can go wrong with a round. A round that fails by one of them is answered by what failed,
but for one: a bank that has neither the tier of the session nor the default tier is answered as an internal error.
Building a round from the templates of a tier never fails by that name, so it is all up to the choice of the tier.
-/
namespace ShapePuzzle

/-- What the game calls a fault: a definition of a template is wrong, something is asked of a cell that is not there,
the templates cannot be had, there is no such tier, or there are too few false statements. -/
inductive Fault.Kind where
  | definition | context | load | tier | distractors
  deriving DecidableEq

/-- The faults of plain operations have no name of their own. -/
def Fault.kind? : Fault → Option Fault.Kind
  | unresolved _ | unknownDirection _ | incomparable _ _ _ | cannotEvaluate _ | unsupportedComparison _
  | boundNotInteger _ _ | noNeighborAction | invalidBank _ => some .definition
  | noCell _ | noNeighbor _ => some .context
  | bankUnreadable | bankNotDocument | emptyTier _ => some .load
  | unknownTier _ => some .tier
  | distractorsExhausted _ _ _ _ => some .distractors
  | _ => none

/-- What building a round from given templates may stop with. -/
def Fault.OfRound (e : Fault) : Prop := e.OfReference ∨ e.OfOperation ∨ e.kind? = some .distractors

namespace Fault.OfRound
variable {e : Fault}

theorem ofReference (h : e.OfReference) : e.OfRound := .inl h

theorem ofOperation (h : e.OfOperation) : e.OfRound := .inr (.inl h)

theorem kind?_ne_tier (h : e.OfRound) : e.kind? ≠ some .tier := by
  cases e with
  | unknownTier tier =>
    obtain h | h | h := h
    · exact h.elim
    · exact h.elim
    · cases h
  | _ => exact nofun

end Fault.OfRound

theorem Ref.stopsWith_resolve (r : Ref) (ctx : Context) : StopsWith Fault.OfRound (r.resolve ctx) := by
  cases r with
  | placeholder k | placeholderName k => exact Details.stopsWith_lookup (.ofReference trivial)
  | cellProperty p | neighborProperty p =>
    simp only [resolve]
    split
    · exact .ok _
    · exact .error (.ofReference trivial)
  | constant v => exact .ok v
  | number n => exact .ok _

theorem admits_ofRound (details : Details) :
    Admits Fault.OfRound details (Ref.KeysMeet fun _ => True) (Ref.KeysMeet fun _ => True) :=
  ⟨fun _ => .ofOperation, fun r _ _ _ => r.stopsWith_resolve _, fun r _ _ _ _ => r.stopsWith_resolve _⟩

theorem Cell.stopsWith_snapshot (c : Cell) : StopsWith Fault.OfRound c.snapshot := by
  refine .bind ?_ fun _ _ => .pure _
  unfold colorName
  split
  · exact .ok _
  · exact .error (.ofOperation trivial)

namespace Template
variable {σ : Type} (t : Template)

private theorem every_true :
    ∀ rule ∈ t.rules, rule.Every (Ref.KeysMeet fun _ => True) (Ref.KeysMeet fun _ => True) :=
  fun _ _ => Rule.every_keysMeet fun _ _ => trivial

theorem stopsWith_drawPlaceholders (details : Details) (ps : Fields Placeholder) :
    Turn.StopsWith Fault.OfRound (drawPlaceholders details ps : Turn σ Details) := by
  induction ps generalizing details with
  | nil => exact .pure _
  | cons f rest ih =>
    exact .bind (f.2.stopsWith_draw (fun _ => .ofOperation) fun _ _ => Details.stopsWith_lookup (.ofReference trivial))
      fun _ => ih _

theorem stopsWith_computeFields (details : Details) (fs : List ComputedField) :
    Turn.StopsWith Fault.OfRound (computeFields details fs : Turn σ Details) := by
  induction fs generalizing details with
  | nil => exact .pure _
  | cons f rest ih =>
    exact .bind (f.stopsWith_compute (fun _ => .ofOperation) fun _ _ => Details.stopsWith_lookup (.ofReference trivial))
      fun _ => ih _

theorem stopsWith_drawDetails : Turn.StopsWith Fault.OfRound (t.drawDetails : Turn σ Details) :=
  .bind (stopsWith_drawPlaceholders _ _) fun _ => .bind (stopsWith_computeFields _ _) fun _ =>
    .bind (.ofExcept ((Value.stopsWith_quoted _).mono fun _ he => .ofOperation he.ofFilling.ofOperation)) fun _ =>
      .pure _

theorem stopsWith_state : Turn.StopsWith Fault.OfRound (t.state : Turn σ Statement) := by
  have hfill : ∀ (d : Details) (text : String), Turn.StopsWith Fault.OfRound (d.fill text : Turn σ String) :=
    fun d text => d.stopsWith_fill (fun _ => .ofOperation) text
  refine .bind t.stopsWith_drawDetails fun _ => .bind (hfill _ _) fun _ => .bind (hfill _ _) fun _ => ?_
  split
  · exact .pure _
  · exact .bind (hfill _ _) fun _ => .pure _

theorem stopsWith_ofRound_buildGrid (size : Int) (satisfies : Bool) (details : Details) :
    Turn.StopsWith Fault.OfRound (t.buildGrid size satisfies details : Turn σ Grid) :=
  stopsWith_buildGrid (admits_ofRound details) t.every_true size satisfies

theorem stopsWith_ofRound_verify (g : Grid) (details : Details) :
    StopsWith Fault.OfRound (t.verify g details) :=
  stopsWith_verify (admits_ofRound details) t.every_true g

end Template

namespace Round
variable {σ : Type}

namespace Search

theorem stopsWith_attempt (s : Search) (bank : List (Template × Nat)) (g : Grid) :
    Turn.StopsWith Fault.OfRound (s.attempt bank g : Turn σ Search) := by
  have hpick : Turn.StopsWith Fault.OfRound (s.pickTemplate bank : Turn σ (Template × Nat)) := by
    unfold pickTemplate
    split
    · exact stopsWith_pick (.ofOperation trivial) _
    · exact stopsWith_pick (.ofOperation trivial) _
  refine .bind hpick fun t => .bind t.1.stopsWith_state fun candidate => ?_
  split
  · exact .pure _
  · refine .bind (.ofExcept (t.1.stopsWith_ofRound_verify g candidate.details)) fun b => ?_
    cases b with
    | true => exact .pure _
    | false => exact .pure _

theorem stopsWith_run (bank : List (Template × Nat)) (g : Grid) (wanted : Int) (n : Nat) (s : Search) :
    Turn.StopsWith Fault.OfRound (run bank g wanted n s : Turn σ Search) := by
  induction n generalizing s with
  | zero => exact .pure _
  | succ n ih =>
    unfold run
    split
    · exact .pure _
    · exact .bind (stopsWith_attempt s bank g) fun _ => ih _

end Search

/-- Once there are templates, a round fails by a fault of a reference or of an operation, or for want of false
statements. -/
theorem stopsWith_build (bank : List Template) (tier : String) (wanted attempts : Int) :
    Turn.StopsWith Fault.OfRound (build bank tier wanted attempts : Turn σ Round) := by
  refine .bind (stopsWith_pick (.ofOperation trivial) _) fun t => .bind t.1.stopsWith_state fun statement =>
    .bind (t.1.stopsWith_ofRound_buildGrid _ _ _) fun g => .bind ?_ fun _ =>
      .bind (stopsWith_shuffle _) fun _ => .pure _
  refine .bind (Search.stopsWith_run _ _ _ _ _) fun found => ?_
  dsimp only
  split
  · exact .bind (.throw (.inr (.inr rfl))) fun _ => .pure _
  · exact .pure _

end Round

theorem BankFile.stopsWith_load (file : BankFile) : StopsWith (fun e => e.kind? ≠ some .tier) file.load := by
  have htext : ∀ s, StopsWith (fun e => e.kind? ≠ some .tier) (Bank.ofText s) := by
    intro s
    unfold Bank.ofText
    split
    · rename_i flaw _
      refine .error ?_
      cases flaw <;> exact nofun
    · split
      · exact .ok _
      · exact .error nofun
  unfold load
  split
  · exact .error nofun
  · exact .error nofun
  · exact .ok _
  · split
    · exact .error nofun
    · exact htext _

theorem BankStore.stopsWith_fetch (store : BankStore) : StopsWith (fun e => e.kind? ≠ some .tier) store.fetch := by
  unfold fetch
  split
  · exact .ok _
  · exact .bind store.file.stopsWith_load fun _ _ => .pure _

namespace Turn
variable {σ α β : Type} {p : Prop} {x : Turn σ α} {st : σ × Luck}

/-- The turn stops for the want of a tier exactly if a condition holds. -/
def WantsTier (p : Prop) (x : Turn σ α) (st : σ × Luck) : Prop :=
  Meets x st (fun _ _ => ¬ p) fun e _ => e.kind? = some .tier ↔ p

namespace WantsTier

theorem of_stopsWith (hp : ¬ p) (h : StopsWith (fun e => e.kind? ≠ some .tier) x) : WantsTier p x st :=
  .of_run (fun _ _ _ => hp) fun _ _ hrun => iff_of_false (h hrun) hp

theorem bind {f : α → Turn σ β} (h : WantsTier p x st) (hf : ¬ p → ∀ a st', WantsTier p (f a) st') :
    WantsTier p (x >>= f) st :=
  Meets.bind h fun a st' hp => hf hp a st'

theorem iff_exists (h : WantsTier p x st) : p ↔ ∃ e st', x st = .error e st' ∧ e.kind? = some .tier := by
  constructor
  · intro hp
    cases hrun : x st with
    | ok a st' => exact absurd hp (h.ok hrun)
    | error e st' => exact ⟨e, st', rfl, (h.error hrun).2 hp⟩
  · rintro ⟨e, st', hrun, hkind⟩
    exact (h.error hrun).1 hkind

end WantsTier
end Turn

/-- The bank has neither the tier nor the default tier. -/
def Bank.Lacks (b : Bank) (tier : String) : Prop := b.lookup tier = none ∧ b.lookup defaultTier = none

theorem Bank.wantsTier_choose {σ : Type} (b : Bank) (tier : String) (st : σ × Luck) :
    Turn.WantsTier (b.Lacks tier) (b.choose tier) st := by
  -- an empty tier is a fault of loading, whichever of the two tiers it is
  have hfound : ¬ b.Lacks tier → ∀ (found : String × List Template) (st : σ × Luck),
      Turn.WantsTier (b.Lacks tier) (do
        if found.2.isEmpty then throw (.emptyTier found.1)
        return found : Turn σ (String × List Template)) st := by
    intro hhas found st
    refine .of_stopsWith hhas ?_
    dsimp only
    split
    · exact .bind (.throw nofun) fun _ => .pure _
    · exact .pure _
  unfold choose
  cases htier : b.lookup tier with
  | some ts =>
    have hhas : ¬ b.Lacks tier := by simp [Lacks, htier]
    exact .bind (.of_stopsWith hhas (.pure _)) hfound
  | none =>
    -- only after the warning is it known which of the two cases this is
    refine Turn.Meets.bind (Q := fun _ _ => True) (.warn trivial) fun _ st _ => ?_
    cases hdefault : b.lookup defaultTier with
    | none =>
      simp only [Bank.tier, hdefault]
      exact iff_of_true rfl ⟨htier, hdefault⟩
    | some ts =>
      have hhas : ¬ b.Lacks tier := by simp [Lacks, hdefault]
      simp only [Bank.tier, hdefault]
      exact hfound hhas (defaultTier, ts) st

/-- A round fails for the want of a tier exactly if there is neither the tier nor the default tier. -/
theorem Round.wantsTier_generate {σ : Type} (b : Bank) (tier : String) (wanted attempts : Int) (st : σ × Luck) :
    Turn.WantsTier (b.Lacks tier) (generate b tier wanted attempts) st :=
  (b.wantsTier_choose tier st).bind fun hhas _ _ => .of_stopsWith hhas fun _ _ _ hrun =>
    (stopsWith_build _ _ _ _ hrun).kind?_ne_tier

/-- A fault with a name is answered by its status, and all but a missing tier by a body of its own. -/
theorem Response.ofFault_spec {e : Fault} {k : Fault.Kind} (h : e.kind? = some k) :
    (Response.ofFault e).status = (if k = .load then 503 else 500) ∧
      (Response.ofFault e = .internalError ↔ k = .tier) := by
  cases e <;> cases h <;> simp [ofFault, Fault.family, detail, internalError]

namespace Lobby
variable {l : Lobby} {luck : Luck} {path : String} {id : SessionId} {s : Session} {e : Fault} {st : Lobby × Luck}

/-- The bank can be had, but has neither the tier nor the default tier. -/
def Lacks (l : Lobby) (tier : String) : Prop :=
  ∃ b store, l.store.fetch = .ok (b, store) ∧ b.Lacks tier

theorem wantsTier_buildRound (tier : String) (l : Lobby) (luck : Luck) :
    Turn.WantsTier (l.Lacks tier) (buildRound tier) (l, luck) := by
  have hbank : Turn.Meets bank (l, luck) (fun b _ => ∃ store, l.store.fetch = .ok (b, store))
      fun e _ => l.store.fetch = .error e := by
    refine .within (.bind_subject (.bind_ofExcept ?_ fun e he => he))
    rintro ⟨b, store⟩ hfetch
    exact .bind_become (.pure ⟨store, hfetch⟩)
  refine Turn.Meets.bind (hbank.mono (fun _ _ h => h) fun e _ hfetch => ?_) fun b st hfetch => ?_
  · refine iff_of_false (l.store.stopsWith_fetch hfetch) ?_
    rintro ⟨b, store, hloaded, -⟩
    simp [hfetch] at hloaded
  · have hlacks : l.Lacks tier ↔ b.Lacks tier := by
      obtain ⟨store, hfetch⟩ := hfetch
      simp [Lacks, hfetch]
    rw [hlacks]
    refine (Round.wantsTier_generate b tier _ _ st).bind fun hhas r st => .of_stopsWith hhas ?_
    refine .bind (.ofExcept ?_) fun _ => .pure _
    exact fun _ he => (StopsWith.mapM (fun c _ => Cell.stopsWith_snapshot c) he).kind?_ne_tier

theorem withSession_of_find? (hfind : l.find? id = some s) (work : Session → Turn Lobby Response) :
    withSession id work (l, luck) = work s (l, luck) := by
  have hsubject : (Turn.subject : Turn Lobby Lobby) (l, luck) = .ok l (l, luck) := rfl
  simp only [withSession, bind, EStateM.bind, hsubject, hfind]

/-- A round that cannot be built is answered by what stopped it. -/
theorem answer_round_of_error (hastray : astray? (.round path) = none) (hasked : Request.addressed path = .ok id)
    (hfind : l.find? id = some s) (h : buildRound s.tier (l, luck) = .error e st) :
    answer (.round path) (l, luck) = .ok (.ofFault e) st := by
  have hsent : (Response.ofFault e).sent = .ofFault e := by
    unfold Response.ofFault
    cases e.family <;> rfl
  have hplay : withSession id playRound (l, luck) = .error e st := by
    simp only [withSession_of_find? hfind, playRound, bind, EStateM.bind, h]
  simp only [answer, hastray, serve, hasked, accepted, bind, EStateM.bind, recover, hplay, hsent]
  rfl

/-- A round that fails by a fault with a name is answered by the status for that name. The answer says what failed,
unless the bank has neither the tier of the session nor the default tier: for that there is no answer but an internal
error, and that is what a round then always fails by. -/
theorem round_escapes_iff (hastray : astray? (.round path) = none) (hasked : Request.addressed path = .ok id)
    (hfind : l.find? id = some s) :
    (∀ e st k, buildRound s.tier (l, luck) = .error e st → e.kind? = some k →
      answer (.round path) (l, luck) = .ok (.ofFault e) st ∧
      (Response.ofFault e).status = (if k = .load then 503 else 500) ∧
      (Response.ofFault e = .internalError ↔ l.Lacks s.tier)) ∧
    (l.Lacks s.tier ↔ ∃ e st, buildRound s.tier (l, luck) = .error e st ∧ e.kind? = some .tier) := by
  have hwants := wantsTier_buildRound s.tier l luck
  refine ⟨fun e st k hbuild hkind => ?_, hwants.iff_exists⟩
  obtain ⟨hstatus, hbody⟩ := Response.ofFault_spec hkind
  have htier : k = .tier ↔ l.Lacks s.tier := by
    rw [← hwants.error hbuild, hkind, Option.some.injEq]
  exact ⟨answer_round_of_error hastray hasked hfind hbuild, hstatus, hbody.trans htier⟩

/-- A session plays on a bank that has nothing but a default tier without templates. -/
def hollowLobby : Lobby := ⟨[.create ⟨7⟩ "hard"], ⟨.absent, some [("easy", [])]⟩⟩

theorem round_escapes_iff_hollow : ∃ st,
    buildRound "hard" (hollowLobby, .start fun _ => 0) = .error (.emptyTier "easy") st ∧
      answer wordyRound (hollowLobby, .start fun _ => 0) =
        .ok (.detail 503 "Puzzle templates are unavailable") st ∧
      ¬ hollowLobby.Lacks "hard" := by
  have hround : astray? wordyRound = none := by simp [wordyRound, astray?, Request.path?]
  have hasked : Request.addressed "00000000-0000-0000-0000-000000000007" = .ok ⟨7⟩ := rfl
  have hfind : hollowLobby.find? ⟨7⟩ = some (.create ⟨7⟩ "hard") := rfl
  have hbuild : buildRound "hard" (hollowLobby, .start fun _ => 0) = .error (.emptyTier "easy") _ := rfl
  obtain ⟨hanswer, -, hbody⟩ := (round_escapes_iff hround hasked hfind).1 _ _ .load hbuild rfl
  refine ⟨_, hbuild, hanswer, fun hlacks => ?_⟩
  cases hbody.2 hlacks

def hardBank : Bank := [("hard", [setting "All shapes are squares." .shape "square"])]

/-- On a bank whose document is accepted, a session that was just opened has no tier to play. -/
theorem round_escapes_hardOnly :
    (Value.object (hardBank.map fun (tier, ts) => (tier, .list (ts.map Template.toValue)))).examine Bank.read =
      .good hardBank ∧
    ∃ history l s st, Reached history l ∧ l.find? ⟨7⟩ = some s ∧
      buildRound s.tier (l, .start fun _ => 0) = .error (.unknownTier "easy") st ∧
      (Fault.unknownTier "easy").kind? = some .tier ∧
      answer wordyRound (l, .start fun _ => 0) = .ok .internalError st := by
  have hreached := Reached.visit wordyOpening (.start ⟨.absent, some hardBank⟩) fun _ _ _ => rfl
  have hasked : Request.received (some "\x7b\x7d") Request.newTier = .ok "easy" :=
    eq_ok_of_toOption (by decide +kernel)
  have hopened : next ⟨[], ⟨.absent, some hardBank⟩⟩ wordyOpening =
      ⟨[.create ⟨7⟩ "easy"], ⟨.absent, some hardBank⟩⟩ := by
    rw [next_of_astray? rfl]
    simp only [serve, wordyOpening, hasked, accepted]
    rfl
  rw [hopened] at hreached
  have hround : astray? wordyRound = none := by simp [wordyRound, astray?, Request.path?]
  have hbuild : buildRound "easy" (⟨[.create ⟨7⟩ "easy"], ⟨.absent, some hardBank⟩⟩, .start fun _ => 0) =
      .error (.unknownTier "easy") _ := rfl
  exact ⟨rfl, _, _, .create ⟨7⟩ "easy", _, hreached, rfl, hbuild, rfl,
    answer_round_of_error (s := .create ⟨7⟩ "easy") hround rfl rfl hbuild⟩

end Lobby
end ShapePuzzle
