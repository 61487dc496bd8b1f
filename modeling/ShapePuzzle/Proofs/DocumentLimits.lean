import Mathlib.Data.List.Induction
import Mathlib.Data.List.TakeWhile
import Mathlib.Tactic.ByContra
import Mathlib.Tactic.SplitIfs
import ShapePuzzle.Json.Reader

/-!
# Documents beyond the limits of the reader

A text that is no JSON is malformed. Besides, the reader gives up at a whole numeral with too many digits and at a
collection inside too many others, and it does so in the middle of a text that may be well formed.
-/
namespace ShapePuzzle.Json

/-- The word starts with a whole numeral of that many digits, which are too many. -/
def LongNumeral (chars : List Char) (digits : Nat) : Prop :=
  ∃ x rest, Numeral.scan? chars = some (x, rest) ∧ x.isWhole ∧ x.whole.length = digits ∧ longestNumeral < digits

theorem Numeral.takeWhole_spec {cs whole rest : List Char} (h : takeWhole cs = (whole, rest)) :
    cs = whole ++ rest ∧ ∀ d ∈ whole, d.isDigit := by
  unfold takeWhole at h
  split at h
  · cases h
    exact ⟨rfl, List.forall_mem_singleton.2 rfl⟩
  · cases h
    exact ⟨List.takeWhile_append_dropWhile.symm, fun d hd => List.mem_takeWhile_imp hd⟩

theorem Numeral.whole_of_scan? {cs rest : List Char} {x : Literal} (h : scan? cs = some (x, rest)) :
    x.whole <:+: cs ∧ ∀ d ∈ x.whole, d.isDigit := by
  have hminus : (takeMinus cs).2 <:+ cs := by
    unfold takeMinus
    split
    · exact List.suffix_cons _ _
    · exact List.suffix_rfl
  unfold scan? at h
  dsimp only at h
  split at h
  · cases h
  · rename_i whole after _ hwhole
    obtain ⟨hcs, hdigits⟩ := takeWhole_spec hwhole
    cases h
    refine ⟨List.IsInfix.trans ?_ hminus.isInfix, hdigits⟩
    rw [hcs]
    exact (List.prefix_append _ _).isInfix

namespace LongNumeral
variable {word : List Char} {digits : Nat}

/-- The digits stand in the word one after another. -/
theorem exists_digits (h : LongNumeral word digits) :
    ∃ ds, ds <:+: word ∧ ds.length = digits ∧ longestNumeral < ds.length ∧ ∀ d ∈ ds, d.isDigit := by
  obtain ⟨x, rest, hscan, -, rfl, hlong⟩ := h
  obtain ⟨hrow, hdigits⟩ := Numeral.whole_of_scan? hscan
  exact ⟨x.whole, hrow, rfl, hlong, hdigits⟩

theorem ne_nil (h : LongNumeral word digits) : word ≠ [] := by
  rintro rfl
  obtain ⟨x, rest, hscan, -⟩ := h
  cases hscan

end LongNumeral

namespace Machine
variable {m m' : Machine} {c : Char} {cs : List Char} {v : Value} {flaw : Flaw}

/-- The character opens a collection. -/
def opens (c : Char) : Bool := c = '[' || c = '\x7b'

/-- How a character may change the open collections: not at all, by one that it opens within the limit, or by one that
it closes. -/
inductive Nests (c : Char) (m m' : Machine) : Prop
  | kept (hdepth : m'.depth = m.depth) (hframes : m'.frames.length = m.frames.length)
  | opened (hopens : opens c) (hlimit : m.depth < deepestNesting) (hdepth : m'.depth = m.depth + 1)
      (hframes : m'.frames.length = m.frames.length + 1)
  | closed (hdepth : m'.depth = m.depth - 1) (hframes : m'.frames.length + 1 = m.frames.length)

theorem Nests.of_kept {m₁ : Machine} (h : Nests c m₁ m') (hdepth : m₁.depth = m.depth)
    (hframes : m₁.frames.length = m.frames.length) : Nests c m m' := by
  cases h with
  | kept hd hf => exact .kept (hd.trans hdepth) (hf.trans hframes)
  | opened hopens hlimit hd hf => exact .opened hopens (hdepth ▸ hlimit) (hdepth ▸ hd) (hframes ▸ hf)
  | closed hd hf => exact .closed (hdepth ▸ hd) (hf.trans hframes)

section Accepting

theorem accept_ok (h : m.accept v = .ok m') :
    m'.scan = m.scan ∧ m'.wantsValue = false ∧ m'.depth = m.depth ∧ m'.frames.length = m.frames.length := by
  unfold accept at h
  split at h
  · cases h
  · split at h
    all_goals
      rename_i hframes
      cases h
      simp [wantsValue, hframes]

theorem accept_error (h : m.accept v = .error flaw) : flaw = .malformed := by
  unfold accept at h
  split at h
  · cases h
    rfl
  · split at h <;> cases h

theorem acceptText_ok {s : String} (h : m.acceptText s = .ok m') :
    m'.scan = m.scan ∧ m'.depth = m.depth ∧ m'.frames.length = m.frames.length := by
  unfold acceptText at h
  split at h
  · rename_i hframes
    cases h
    simp [hframes]
  · rename_i hframes
    cases h
    simp [hframes]
  · obtain ⟨hscan, -, hdepth, hframes⟩ := accept_ok h
    exact ⟨hscan, hdepth, hframes⟩

theorem acceptText_error {s : String} (h : m.acceptText s = .error flaw) : flaw = .malformed := by
  unfold acceptText at h
  split at h
  · cases h
  · cases h
  · exact accept_error h

/-- Nothing but its length is wrong with a numeral that is too long, and nothing else is told apart. -/
theorem number_eq_error_iff {chars : List Char} (hflaw : flaw ≠ .malformed) :
    number chars = .error flaw ↔ ∃ digits, LongNumeral chars digits ∧ flaw = .numeralTooLong digits := by
  unfold number
  constructor
  · intro h
    split at h
    · cases h
      exact absurd rfl hflaw
    · rename_i x rest hscan
      split_ifs at h with hlong hrest hwhole
      · cases h
        exact ⟨_, ⟨x, rest, hscan, hlong.1, rfl, hlong.2⟩, rfl⟩
      · cases h
        exact absurd rfl hflaw
  · rintro ⟨digits, ⟨x, rest, hscan, hwhole, rfl, hlong⟩, rfl⟩
    simp only [hscan]
    rw [if_pos ⟨hwhole, hlong⟩]

/-- None of the words that name a value starts with a numeral. -/
theorem word_eq_error_iff {chars : List Char} (hflaw : flaw ≠ .malformed) :
    word chars = .error flaw ↔ ∃ digits, LongNumeral chars digits ∧ flaw = .numeralTooLong digits := by
  have hname : ∀ name : String, Numeral.scan? name.toList = none → String.ofList chars = name →
      ¬ ∃ digits, LongNumeral chars digits ∧ flaw = .numeralTooLong digits := by
    rintro name hnone hchars ⟨digits, ⟨x, rest, hscan, -⟩, -⟩
    rw [← hchars, String.toList_ofList, hscan] at hnone
    cases hnone
  unfold word
  split
  · exact iff_of_false nofun (hname _ rfl ‹_›)
  · exact iff_of_false nofun (hname _ rfl ‹_›)
  · exact iff_of_false nofun (hname _ rfl ‹_›)
  · exact iff_of_false nofun (hname _ rfl ‹_›)
  · exact iff_of_false nofun (hname _ rfl ‹_›)
  · exact iff_of_false nofun (hname _ rfl ‹_›)
  · exact number_eq_error_iff hflaw

theorem acceptWord_ok {chars : List Char} (h : m.acceptWord chars = .ok m') :
    m'.scan = .between ∧ m'.wantsValue = false ∧ m'.depth = m.depth ∧ m'.frames.length = m.frames.length := by
  unfold acceptWord at h
  split at h
  · cases h
  · split at h
    · exact accept_ok h
    · cases h

theorem acceptWord_eq_error_iff {chars : List Char} (hflaw : flaw ≠ .malformed) :
    m.acceptWord chars = .error flaw ↔
      m.wantsValue ∧ ∃ digits, LongNumeral chars.reverse digits ∧ flaw = .numeralTooLong digits := by
  rw [← word_eq_error_iff hflaw]
  unfold acceptWord
  cases hwants : m.wantsValue with
  | false => simp [hflaw.symm]
  | true =>
    cases hword : word chars.reverse with
    | ok v =>
      refine iff_of_false (fun h => hflaw (accept_error h)) ?_
      rintro ⟨-, h⟩
      cases h
    | error f => simp

theorem openFrame_ok {frame : Frame} {expected : Expected} (h : m.openFrame frame expected = .ok m') :
    m.depth < deepestNesting ∧ m' = { m with frames := frame :: m.frames, depth := m.depth + 1, expected } := by
  unfold openFrame at h
  split_ifs at h with hwants hdepth
  cases h
  exact ⟨Nat.lt_of_not_le hdepth, rfl⟩

theorem openFrame_eq_error_iff {frame : Frame} {expected : Expected} (hflaw : flaw ≠ .malformed) :
    m.openFrame frame expected = .error flaw ↔
      m.wantsValue ∧ deepestNesting ≤ m.depth ∧ flaw = .nestedTooDeep := by
  unfold openFrame
  cases hwants : m.wantsValue with
  | false => simp [hflaw.symm]
  | true =>
    by_cases hdepth : deepestNesting ≤ m.depth
    · simp [hdepth, eq_comm]
    · simp [hdepth]

theorem closeFrame_ok {rest : List Frame} (h : m.closeFrame rest v = .ok m') :
    m'.scan = m.scan ∧ m'.depth = m.depth - 1 ∧ m'.frames.length = rest.length := by
  obtain ⟨hscan, -, hdepth, hframes⟩ := accept_ok h
  exact ⟨hscan, hdepth, hframes⟩

theorem nests_of_closeFrame {frame : Frame} {rest : List Frame} (hframes : m.frames = frame :: rest)
    (h : m.closeFrame rest v = .ok m') : Nests c m m' ∧ m'.scan = m.scan := by
  obtain ⟨hscan, hdepth, hrest⟩ := closeFrame_ok h
  exact ⟨.closed hdepth (by rw [hrest, hframes, List.length_cons]), hscan⟩

theorem punctuation_ok (h : m.punctuation c = .ok m') :
    Nests c m m' ∧ (m'.scan = m.scan ∨ m'.scan = .inText []) := by
  unfold punctuation at h
  split at h
  · obtain ⟨hdepth, rfl⟩ := openFrame_ok h
    exact ⟨.opened rfl hdepth rfl rfl, .inl rfl⟩
  · obtain ⟨hdepth, rfl⟩ := openFrame_ok h
    exact ⟨.opened rfl hdepth rfl rfl, .inl rfl⟩
  · exact (nests_of_closeFrame ‹_› h).imp id .inl
  · exact (nests_of_closeFrame ‹_› h).imp id .inl
  · exact (nests_of_closeFrame ‹_› h).imp id .inl
  · exact (nests_of_closeFrame ‹_› h).imp id .inl
  · cases h
    exact ⟨.kept rfl rfl, .inl rfl⟩
  · cases h
    exact ⟨.kept rfl rfl, .inl rfl⟩
  · cases h
    exact ⟨.kept rfl rfl, .inl rfl⟩
  · cases h
    exact ⟨.kept rfl rfl, .inr rfl⟩
  · cases h

theorem punctuation_eq_error_iff (hflaw : flaw ≠ .malformed) : m.punctuation c = .error flaw ↔
    opens c ∧ m.wantsValue ∧ deepestNesting ≤ m.depth ∧ flaw = .nestedTooDeep := by
  by_cases hopens : opens c = true
  · have hc : c = '[' ∨ c = '\x7b' := by simpa [opens] using hopens
    rcases hc with rfl | rfl
    · exact (openFrame_eq_error_iff hflaw).trans (by simp [opens])
    · exact (openFrame_eq_error_iff hflaw).trans (by simp [opens])
  · refine iff_of_false (fun h => hflaw ?_) (fun h => hopens h.1)
    unfold punctuation at h
    split at h
    · exact absurd rfl hopens
    · exact absurd rfl hopens
    · exact accept_error h
    · exact accept_error h
    · exact accept_error h
    · exact accept_error h
    · cases h
    · cases h
    · cases h
    · cases h
    · cases h
      rfl

end Accepting

section Steps

theorem acceptUnit_spec (m : Machine) (chars : List Char) (unit : Nat) :
    (∃ chars', (m.acceptUnit chars unit).scan = .inText chars') ∧
      (m.acceptUnit chars unit).depth = m.depth ∧ (m.acceptUnit chars unit).frames = m.frames := by
  unfold acceptUnit
  split
  · exact ⟨⟨_, rfl⟩, rfl, rfl⟩
  · split
    · split
      · exact ⟨⟨_, rfl⟩, rfl, rfl⟩
      · exact ⟨⟨_, rfl⟩, rfl, rfl⟩
    · exact ⟨⟨_, rfl⟩, rfl, rfl⟩

/-- What a character does to a machine that takes it: it nests, and if the machine is in a word then, the character has
been added to the word and nothing else has changed. -/
structure Advances (c : Char) (m m' : Machine) : Prop where
  nests : Nests c m m'
  word : ∀ chars', m'.scan = .word chars' → isWordChar c ∧ m' = { m with scan := .word chars' } ∧
    ((m.scan = .between ∧ chars' = [c]) ∨ ∃ chars, m.scan = .word chars ∧ chars' = c :: chars)

theorem Advances.of_not_word (hnests : Nests c m m') (hscan : ∀ chars, m'.scan ≠ .word chars) : Advances c m m' :=
  ⟨hnests, fun chars h => absurd h (hscan chars)⟩

theorem not_word_of_punctuation (hscan : m.scan = .between) (h : m.punctuation c = .ok m') (chars : List Char) :
    m'.scan ≠ .word chars := by
  intro hword
  have hafter := (punctuation_ok h).2
  rw [hword, hscan] at hafter
  rcases hafter with hafter | hafter <;> cases hafter

theorem advances_of_acceptWord {chars : List Char} {m₁ : Machine} (haccept : m.acceptWord chars = .ok m₁)
    (h : (if isBlank c then .ok m₁ else m₁.punctuation c) = Except.ok (ε := Flaw) m') : Advances c m m' := by
  obtain ⟨hbetween, -, hdepth, hframes⟩ := acceptWord_ok haccept
  split at h
  · cases h
    exact .of_not_word (.kept hdepth hframes) (by simp [hbetween])
  · exact .of_not_word ((punctuation_ok h).1.of_kept hdepth hframes) (not_word_of_punctuation hbetween h)

theorem step_ok (h : m.step c = .ok m') : Advances c m m' := by
  unfold step at h
  split at h
  · rename_i hscan
    split_ifs at h with hblank hword
    · cases h
      exact .of_not_word (.kept rfl rfl) (by simp [hscan])
    · cases h
      refine ⟨.kept rfl rfl, ?_⟩
      rintro _ ⟨⟩
      exact ⟨hword, rfl, .inl ⟨hscan, rfl⟩⟩
    · exact .of_not_word (punctuation_ok h).1 (not_word_of_punctuation hscan h)
  · rename_i chars hscan
    split at h
    · rename_i hword
      cases h
      refine ⟨.kept rfl rfl, ?_⟩
      rintro _ ⟨⟩
      exact ⟨hword, rfl, .inr ⟨chars, hscan, rfl⟩⟩
    · split at h
      · cases h
      · exact advances_of_acceptWord ‹_› h
  · split_ifs at h
    · obtain ⟨hbetween, hdepth, hframes⟩ := acceptText_ok h
      exact .of_not_word (.kept hdepth hframes) (by simp [hbetween])
    · cases h
      exact .of_not_word (.kept rfl rfl) nofun
    · cases h
      exact .of_not_word (.kept rfl rfl) nofun
  · split at h
    · cases h
      exact .of_not_word (.kept rfl rfl) nofun
    · split at h
      · cases h
        exact .of_not_word (.kept rfl rfl) nofun
      · cases h
  · split at h
    · cases h
    · dsimp only at h
      split at h
      · cases h
        obtain ⟨⟨_, htext⟩, hdepth, hframes⟩ := acceptUnit_spec m _ _
        exact .of_not_word (.kept hdepth (by rw [hframes])) (by simp [htext])
      · cases h
        exact .of_not_word (.kept rfl rfl) nofun

/-- A word ends where a value stands, so a collection that begins right behind it is malformed at any depth. -/
theorem malformed_of_acceptWord {chars : List Char} {m₁ : Machine} (haccept : m.acceptWord chars = .ok m₁)
    (h : (if isBlank c then .ok m₁ else m₁.punctuation c) = Except.error flaw) : flaw = .malformed := by
  obtain ⟨-, hwants, -⟩ := acceptWord_ok haccept
  by_contra hflaw
  split at h
  · cases h
  · obtain ⟨-, hstill, -⟩ := (punctuation_eq_error_iff hflaw).1 h
    rw [hwants] at hstill
    cases hstill

theorem step_between_eq_error_iff (hscan : m.scan = .between) (hflaw : flaw ≠ .malformed) :
    m.step c = .error flaw ↔ opens c ∧ m.wantsValue ∧ deepestNesting ≤ m.depth ∧ flaw = .nestedTooDeep := by
  rw [← punctuation_eq_error_iff hflaw]
  simp only [step, hscan]
  by_cases hopens : opens c = true
  · have hplain : isBlank c = false ∧ isWordChar c = false := by
      have hc : c = '[' ∨ c = '\x7b' := by simpa [opens] using hopens
      rcases hc with rfl | rfl <;> decide
    simp [hplain]
  · have hnone : m.punctuation c ≠ .error flaw := fun h => hopens ((punctuation_eq_error_iff hflaw).1 h).1
    split_ifs <;> simp [hnone]

theorem step_word_eq_error_iff {chars : List Char} (hscan : m.scan = .word chars) (hflaw : flaw ≠ .malformed) :
    m.step c = .error flaw ↔ isWordChar c = false ∧ m.acceptWord chars = .error flaw := by
  simp only [step, hscan]
  cases hword : isWordChar c with
  | true => simp
  | false =>
    cases haccept : m.acceptWord chars with
    | ok m₁ =>
      refine iff_of_false (fun h => hflaw (malformed_of_acceptWord haccept h)) ?_
      rintro ⟨-, h⟩
      cases h
    | error f => simp

theorem step_error (hflaw : flaw ≠ .malformed) (h : m.step c = .error flaw) :
    m.scan = .between ∨ ∃ chars, m.scan = .word chars := by
  unfold step at h
  split at h
  · exact .inl ‹_›
  · exact .inr ⟨_, ‹_›⟩
  · split_ifs at h
    · exact absurd (acceptText_error h) hflaw
    · cases h
      exact absurd rfl hflaw
  · split at h
    · cases h
    · split at h
      · cases h
      · cases h
        exact absurd rfl hflaw
  · split at h
    · cases h
      exact absurd rfl hflaw
    · dsimp only at h
      split at h <;> cases h

end Steps

section Runs

theorem run_append (m : Machine) (cs ds : List Char) : m.run (cs ++ ds) = m.run cs >>= fun m' => m'.run ds := by
  induction cs generalizing m with
  | nil => rfl
  | cons c rest ih =>
    simp only [List.cons_append, run]
    cases m.step c with
    | ok m' => exact ih m'
    | error f => rfl

theorem run_append_of_ok {ds : List Char} (h : m.run cs = .ok m') : m.run (cs ++ ds) = m'.run ds := by
  rw [run_append, h]
  rfl

/-- A run that fails does so at a character, and goes well up to it. -/
theorem exists_of_run_eq_error (h : m.run cs = .error flaw) :
    ∃ before c after m', cs = before ++ c :: after ∧ m.run before = .ok m' ∧ m'.step c = .error flaw := by
  induction cs generalizing m with
  | nil => cases h
  | cons c rest ih =>
    rw [run] at h
    cases hstep : m.step c with
    | error f =>
      rw [hstep] at h
      cases h
      exact ⟨[], c, rest, m, rfl, rfl, hstep⟩
    | ok m₁ =>
      rw [hstep] at h
      obtain ⟨before, d, after, m', rfl, hbefore, hd⟩ := ih h
      refine ⟨c :: before, d, after, m', rfl, ?_, hd⟩
      rw [run, hstep]
      exact hbefore

theorem run_concat_eq_ok (h : m.run (cs ++ [c]) = .ok m') : ∃ m₁, m.run cs = .ok m₁ ∧ m₁.step c = .ok m' := by
  rw [run_append] at h
  cases hrun : m.run cs with
  | error f =>
    rw [hrun] at h
    cases h
  | ok m₁ =>
    refine ⟨m₁, rfl, ?_⟩
    rw [hrun] at h
    cases hstep : m₁.step c with
    | error f => simp [Bind.bind, Except.bind, run, hstep] at h
    | ok m₂ => simpa [Bind.bind, Except.bind, run, hstep] using h

/-- The open collections are counted, and there are no more of them than the limit and the text allow. -/
structure Counted (cs : List Char) (m : Machine) : Prop where
  depth : m.depth = m.frames.length
  within : m.depth ≤ deepestNesting
  opened : m.depth ≤ cs.countP opens

theorem counted_start : Counted [] start := ⟨rfl, Nat.zero_le _, Nat.le_refl _⟩

theorem Counted.step (h : Counted cs m) (hadvances : Advances c m m') : Counted (cs ++ [c]) m' := by
  obtain ⟨hdepth, hwithin, hopened⟩ := h
  have hcount : (cs ++ [c]).countP opens = cs.countP opens + if opens c then 1 else 0 := by
    rw [List.countP_append, List.countP_singleton]
  cases hadvances.nests with
  | kept hd hf => exact ⟨by omega, by omega, by omega⟩
  | opened hopens hlimit hd hf =>
    rw [if_pos hopens] at hcount
    exact ⟨by omega, by omega, by omega⟩
  | closed hd hf => exact ⟨by omega, by omega, by omega⟩

/-- By induction from the end of the text, since what a step changes is said of the machine before it. -/
theorem counted_of_run (h : start.run cs = .ok m) : Counted cs m := by
  induction cs using List.reverseRecOn generalizing m with
  | nil =>
    cases h
    exact counted_start
  | append_singleton cs c ih =>
    obtain ⟨m₁, hrun, hstep⟩ := run_concat_eq_ok h
    exact (ih hrun).step (step_ok hstep)

/-- The text can be read as far as to a place where a value may start. -/
structure Awaits (before : List Char) (m : Machine) : Prop where
  run : start.run before = .ok m
  between : m.scan = .between
  wants : m.wantsValue

/-- The characters of the word that a machine is in are the last ones it took, and it came to them between words. -/
theorem exists_of_run_word {chars : List Char} (h : start.run cs = .ok m) (hscan : m.scan = .word chars) :
    ∃ before m₀, cs = before ++ chars.reverse ∧ start.run before = .ok m₀ ∧ m₀.scan = .between ∧
      m = { m₀ with scan := .word chars } ∧ ∀ c ∈ chars, isWordChar c := by
  induction cs using List.reverseRecOn generalizing m chars with
  | nil =>
    cases h
    cases hscan
  | append_singleton cs c ih =>
    obtain ⟨m₁, hrun, hstep⟩ := run_concat_eq_ok h
    obtain ⟨hc, hm, ⟨hbetween, rfl⟩ | ⟨chars₁, hword, rfl⟩⟩ := (step_ok hstep).word chars hscan
    · exact ⟨cs, m₁, rfl, hrun, hbetween, hm, by simpa using hc⟩
    · obtain ⟨before, m₀, rfl, hbefore, hbetween, rfl, hall⟩ := ih hrun hword
      refine ⟨before, m₀, by simp, hbefore, hbetween, hm, List.forall_mem_cons.2 ⟨hc, hall⟩⟩

theorem run_in_word {chars : List Char} (hcs : ∀ c ∈ cs, isWordChar c) :
    run { m with scan := .word chars } cs = .ok { m with scan := .word (cs.reverse ++ chars) } := by
  induction cs generalizing chars with
  | nil => rfl
  | cons c rest ih =>
    obtain ⟨hc, hrest⟩ := List.forall_mem_cons.1 hcs
    simp only [run, step, hc, if_true]
    rw [ih hrest]
    simp

theorem not_isBlank_of_isWordChar (h : isWordChar c) : isBlank c = false := by
  cases hblank : isBlank c with
  | false => rfl
  | true =>
    simp only [isBlank, Bool.or_eq_true, decide_eq_true_eq] at hblank
    rcases hblank with ((rfl | rfl) | rfl) | rfl <;> revert h <;> decide

theorem run_word {word : List Char} (hscan : m.scan = .between) (hne : word ≠ []) (hword : ∀ c ∈ word, isWordChar c) :
    m.run word = .ok { m with scan := .word word.reverse } := by
  obtain ⟨c, rest, rfl⟩ := List.exists_cons_of_ne_nil hne
  obtain ⟨hc, hrest⟩ := List.forall_mem_cons.1 hword
  have hblank := not_isBlank_of_isWordChar hc
  simp only [run, step, hscan, hblank, hc, if_true, Bool.false_eq_true, if_false]
  rw [run_in_word hrest]
  simp

end Runs

/-- A text that goes beyond a limit in a place where a value may start, whatever comes after it. -/
inductive Exceeds (cs : List Char) : Flaw → Prop
  | numeral {before word after : List Char} {m : Machine} {digits : Nat} (hcs : cs = before ++ (word ++ after))
      (hbefore : Awaits before m) (hword : ∀ c ∈ word, isWordChar c)
      (hafter : ∀ c ∈ after.head?, isWordChar c = false) (hlong : LongNumeral word digits) :
      Exceeds cs (.numeralTooLong digits)
  | nesting {before after : List Char} {c : Char} {m : Machine} (hcs : cs = before ++ c :: after)
      (hbefore : Awaits before m) (hopens : opens c) (hdeep : m.frames.length = deepestNesting) :
      Exceeds cs .nestedTooDeep

theorem exceeds_of_acceptWord {chars : List Char} (after : List Char) (hflaw : flaw ≠ .malformed)
    (hrun : start.run cs = .ok m) (hscan : m.scan = .word chars) (hafter : ∀ c ∈ after.head?, isWordChar c = false)
    (h : m.acceptWord chars = .error flaw) : Exceeds (cs ++ after) flaw := by
  obtain ⟨before, m₀, rfl, hbefore, hbetween, rfl, hall⟩ := exists_of_run_word hrun hscan
  obtain ⟨hwants, digits, hlong, rfl⟩ := (acceptWord_eq_error_iff hflaw).1 h
  exact .numeral (List.append_assoc _ _ _) ⟨hbefore, hbetween, hwants⟩ (by simpa using hall) hafter hlong

/-- The step at which a run fails is between words, where only nesting is limited, or at the end of a word. -/
theorem exceeds_of_run (hflaw : flaw ≠ .malformed) (h : start.run cs = .error flaw) : Exceeds cs flaw := by
  obtain ⟨before, c, after, m, rfl, hrun, hstep⟩ := exists_of_run_eq_error h
  rcases step_error hflaw hstep with hscan | ⟨chars, hscan⟩
  · obtain ⟨hopens, hwants, hdepth, rfl⟩ := (step_between_eq_error_iff hscan hflaw).1 hstep
    have hcounted := counted_of_run hrun
    exact .nesting rfl ⟨hrun, hscan, hwants⟩ hopens (hcounted.depth ▸ Nat.le_antisymm hcounted.within hdepth)
  · obtain ⟨hend, haccept⟩ := (step_word_eq_error_iff hscan hflaw).1 hstep
    exact exceeds_of_acceptWord _ hflaw hrun hscan (by simpa using hend) haccept

theorem exists_of_finish_eq_error (hflaw : flaw ≠ .malformed) (h : m.finish = .error flaw) :
    ∃ chars, m.scan = .word chars ∧ m.acceptWord chars = .error flaw := by
  unfold finish at h
  dsimp only at h
  split at h
  · rename_i f hclosed
    cases h
    split at hclosed
    · cases hclosed
    · exact ⟨_, ‹_›, hclosed⟩
    · cases hclosed
      exact absurd rfl hflaw
  · split at h
    · cases h
    · cases h
      exact absurd rfl hflaw

theorem exceeds_of_finish (hflaw : flaw ≠ .malformed) (hrun : start.run cs = .ok m) (h : m.finish = .error flaw) :
    Exceeds cs flaw := by
  obtain ⟨chars, hscan, haccept⟩ := exists_of_finish_eq_error hflaw h
  simpa using exceeds_of_acceptWord [] hflaw hrun hscan (by simp) haccept

/-- What comes after a word that is too long a numeral is not looked at. -/
theorem Exceeds.read {s : String} (h : Exceeds s.toList flaw) : read s = .error flaw := by
  unfold Json.read
  cases h with
  | @numeral before word after m digits hcs hbefore hword hafter hlong =>
    have hflaw : Flaw.numeralTooLong digits ≠ .malformed := nofun
    have haccept : acceptWord { m with scan := .word word.reverse } word.reverse = .error (.numeralTooLong digits) :=
      (acceptWord_eq_error_iff hflaw).2 ⟨hbefore.wants, digits, by rwa [List.reverse_reverse], rfl⟩
    rw [hcs, run_append_of_ok hbefore.run, run_append_of_ok (run_word hbefore.between hlong.ne_nil hword)]
    cases after with
    | nil => simp only [run, finish, haccept]
    | cons c rest =>
      have hstep := (step_word_eq_error_iff (c := c) (m := { m with scan := .word word.reverse }) rfl hflaw).2
        ⟨hafter c rfl, haccept⟩
      simp only [run, hstep]
  | @nesting before after c m hcs hbefore hopens hdeep =>
    have hflaw : Flaw.nestedTooDeep ≠ .malformed := nofun
    have hdepth : deepestNesting ≤ m.depth := Nat.le_of_eq ((counted_of_run hbefore.run).depth.trans hdeep).symm
    have hstep := (step_between_eq_error_iff hbefore.between hflaw).2 ⟨hopens, hbefore.wants, hdepth, rfl⟩
    rw [hcs, run_append_of_ok hbefore.run]
    simp only [run, hstep]

/-- A text with a numeral that is too long has all its digits one after another. -/
theorem Exceeds.exists_digits {digits : Nat} (h : Exceeds cs (.numeralTooLong digits)) :
    ∃ ds, ds <:+: cs ∧ ds.length = digits ∧ longestNumeral < ds.length ∧ ∀ d ∈ ds, d.isDigit := by
  cases h with
  | numeral hcs hbefore hword hafter hlong =>
    obtain ⟨ds, hds, hlength⟩ := hlong.exists_digits
    refine ⟨ds, hds.trans ?_, hlength⟩
    rw [hcs, ← List.append_assoc]
    exact List.infix_append _ _ _

/-- A text that is nested too deep opens more collections than the limit, even if it closes others in between. -/
theorem Exceeds.lt_countP (h : Exceeds cs .nestedTooDeep) : deepestNesting < cs.countP opens := by
  cases h with
  | nesting hcs hbefore hopens hdeep =>
    have hcounted := counted_of_run hbefore.run
    have hopened := hcounted.opened
    rw [hcounted.depth, hdeep] at hopened
    rw [hcs, List.countP_append, List.countP_cons_of_pos hopens]
    omega

end Machine

/-- Whatever is wrong with a text, it is malformed or it goes beyond a limit. -/
theorem read_eq_error_iff {s : String} {flaw : Flaw} (hflaw : flaw ≠ .malformed) :
    read s = .error flaw ↔ Machine.Exceeds s.toList flaw := by
  refine ⟨fun h => ?_, Machine.Exceeds.read⟩
  unfold read at h
  cases hrun : Machine.start.run s.toList with
  | ok m =>
    rw [hrun] at h
    exact Machine.exceeds_of_finish hflaw hrun h
  | error f =>
    rw [hrun] at h
    cases h
    exact Machine.exceeds_of_run hflaw hrun

end ShapePuzzle.Json
