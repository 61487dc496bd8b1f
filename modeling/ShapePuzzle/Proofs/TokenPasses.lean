import Mathlib.Data.List.TakeWhile
import ShapePuzzle.Proofs.QuietStatements

/-!
# Filling a text in one pass

What filling a text comes to is described as one pass from left to right, without cutting the text into pieces
first. The pass breaks off at a value that cannot be written. The program fills in that way only, and if no brace is
opened by what it fills in, then the tokens that are left are those that stand for nothing, so that filling the text
again changes nothing.
-/
namespace ShapePuzzle

/-- A brace before the text opens a token: the next closing brace comes after at least one other character. -/
def OpensToken (text key after : List Char) : Prop :=
  text = key ++ '\x7d' :: after ∧ key ≠ [] ∧ '\x7d' ∉ key

/-- Goes over a text with the details at hand; says what comes out and which names stand for nothing. -/
inductive Details.Fills (d : Details) : List Char → List Char → List String → Prop where
  | done : Fills d [] [] []
  | other {c text out missing} (hc : c ≠ '\x7b') (rest : Fills d text out missing) :
      Fills d (c :: text) (c :: out) missing
  | stray {text out missing} (hstray : ∀ key after, ¬ OpensToken text key after)
      (rest : Fills d text out missing) : Fills d ('\x7b' :: text) ('\x7b' :: out) missing
  | filled {text key after out missing v x} (hopens : OpensToken text key after)
      (hv : d.lookup (String.ofList key) = some v) (hnull : v ≠ .null) (hx : v.bare = .ok x)
      (rest : Fills d after out missing) : Fills d ('\x7b' :: text) (x.toList ++ out) missing
  | left {text key after out missing} (hopens : OpensToken text key after)
      (hnone : ∀ v, d.lookup (String.ofList key) = some v → v = .null) (rest : Fills d after out missing) :
      Fills d ('\x7b' :: text) ('\x7b' :: key ++ '\x7d' :: out) (String.ofList key :: missing)

/-- Going over a text in the same way comes to a token whose value cannot be written. -/
inductive Details.Breaks (d : Details) : List Char → Fault → Prop where
  | here {text key after v e} (hopens : OpensToken text key after) (hv : d.lookup (String.ofList key) = some v)
      (hnull : v ≠ .null) (he : v.bare = .error e) : Breaks d ('\x7b' :: text) e
  | other {c text e} (hc : c ≠ '\x7b') (rest : Breaks d text e) : Breaks d (c :: text) e
  | stray {text e} (hstray : ∀ key after, ¬ OpensToken text key after) (rest : Breaks d text e) :
      Breaks d ('\x7b' :: text) e
  | filled {text key after v x e} (hopens : OpensToken text key after) (hv : d.lookup (String.ofList key) = some v)
      (hnull : v ≠ .null) (hx : v.bare = .ok x) (rest : Breaks d after e) : Breaks d ('\x7b' :: text) e
  | left {text key after e} (hopens : OpensToken text key after)
      (hnone : ∀ v, d.lookup (String.ofList key) = some v → v = .null) (rest : Breaks d after e) :
      Breaks d ('\x7b' :: text) e

section Tokens
variable {text key after : List Char}

theorem openToken?_eq_some_iff : openToken? text = some (key, after) ↔ OpensToken text key after := by
  constructor
  · intro h
    refine ⟨openToken?_eq h, ?_⟩
    unfold openToken? at h
    split at h
    · rename_i k rest _ after' hkey _
      obtain ⟨rfl, rfl⟩ := Prod.mk.inj (Option.some.inj h)
      refine ⟨List.cons_ne_nil _ _, fun hmem => ?_⟩
      rw [← hkey] at hmem
      simpa using List.mem_takeWhile_imp hmem
    · cases h
  · rintro ⟨rfl, hne, hnot⟩
    have hall : ∀ c ∈ key, decide (c ≠ '\x7d') = true := by
      intro c hc
      exact decide_eq_true fun heq => hnot (heq ▸ hc)
    have htake : (key ++ '\x7d' :: after).takeWhile (fun c => decide (c ≠ '\x7d')) = key := by
      rw [List.takeWhile_append_of_pos hall]
      simp
    have hdrop : (key ++ '\x7d' :: after).dropWhile (fun c => decide (c ≠ '\x7d')) = '\x7d' :: after := by
      rw [List.dropWhile_append_of_pos hall]
      simp
    obtain ⟨c, rest, rfl⟩ := List.exists_cons_of_ne_nil hne
    simp only [openToken?, htake, hdrop]

theorem openToken?_eq_none_iff : openToken? text = none ↔ ∀ key after, ¬ OpensToken text key after := by
  rw [Option.eq_none_iff_forall_ne_some]
  constructor
  · exact fun h key after hopens => h (key, after) (openToken?_eq_some_iff.2 hopens)
  · exact fun h p hp => h p.1 p.2 (openToken?_eq_some_iff.1 hp)

theorem pieces_cons_of_ne {c : Char} (hc : c ≠ '\x7b') : pieces (c :: text) = .plain c :: pieces text := by
  rw [pieces, if_neg hc]

theorem pieces_of_opens (h : OpensToken text key after) :
    pieces ('\x7b' :: text) = .token key :: pieces after := by
  rw [pieces, if_pos rfl]
  split
  · rename_i heq
    rw [openToken?_eq_some_iff.2 h] at heq
    cases heq
    rfl
  · rename_i heq
    rw [openToken?_eq_some_iff.2 h] at heq
    cases heq

theorem pieces_of_stray (h : ∀ key after, ¬ OpensToken text key after) :
    pieces ('\x7b' :: text) = .plain '\x7b' :: pieces text := by
  rw [pieces, if_pos rfl]
  split
  · rename_i heq
    exact absurd (openToken?_eq_some_iff.1 heq) (h _ _)
  · rfl

/-- A brace that opens nothing stands before a closing brace or has none after it. -/
theorem closed_or_not_mem_of_stray (h : ∀ key after, ¬ OpensToken text key after) :
    (∃ after, text = '\x7d' :: after) ∨ '\x7d' ∉ text := by
  by_cases hmem : '\x7d' ∈ text
  · obtain ⟨key, after, rfl, hnot⟩ := List.eq_append_cons_of_mem hmem
    cases key with
    | nil => exact .inl ⟨after, rfl⟩
    | cons c key => exact absurd ⟨rfl, List.cons_ne_nil c key, hnot⟩ (h (c :: key) after)
  · exact .inr hmem

theorem not_opensToken_of_closed : ¬ OpensToken ('\x7d' :: text) key after := by
  rintro ⟨heq, hne, hnot⟩
  obtain ⟨c, key, rfl⟩ := List.exists_cons_of_ne_nil hne
  rw [List.cons_append] at heq
  exact hnot ((List.cons.inj heq).1 ▸ List.mem_cons_self)

theorem OpensToken.mem (h : OpensToken text key after) : '\x7d' ∈ text := by
  rw [h.1]
  exact List.mem_append_right key List.mem_cons_self

theorem tokenNames_cons_of_ne {c : Char} (hc : c ≠ '\x7b') : tokenNames (c :: text) = tokenNames text := by
  simp [tokenNames, pieces_cons_of_ne hc]

theorem tokenNames_of_opens (h : OpensToken text key after) :
    tokenNames ('\x7b' :: text) = String.ofList key :: tokenNames after := by
  simp [tokenNames, pieces_of_opens h]

theorem tokenNames_of_stray (h : ∀ key after, ¬ OpensToken text key after) :
    tokenNames ('\x7b' :: text) = tokenNames text := by
  simp [tokenNames, pieces_of_stray h]

end Tokens

namespace Details
variable {d : Details} {text key out : List Char} {missing : List String} {e : Fault}

theorem supplied?_of_none (hnone : ∀ v, d.lookup (String.ofList key) = some v → v = .null) :
    d.supplied? key = none := by
  rw [supplied?]
  cases hv : d.lookup (String.ofList key) with
  | none => rfl
  | some v =>
    cases hnone v hv
    rfl

/-- A pass over a text goes through or breaks off. -/
theorem fills_or_breaks (d : Details) (text : List Char) :
    (∃ out missing, d.Fills text out missing) ∨ ∃ e, d.Breaks text e := by
  fun_induction pieces text with
  | case1 => exact .inl ⟨[], [], .done⟩
  | case2 rest key after hopens ih =>
    have hopens := openToken?_eq_some_iff.1 hopens
    by_cases hvalue : ∃ v, d.lookup (String.ofList key) = some v ∧ v ≠ .null
    · obtain ⟨v, hv, hnull⟩ := hvalue
      cases hbare : v.bare with
      | error e => exact .inr ⟨e, .here hopens hv hnull hbare⟩
      | ok x =>
        rcases ih with ⟨out, missing, hrest⟩ | ⟨e, hrest⟩
        · exact .inl ⟨_, _, .filled hopens hv hnull hbare hrest⟩
        · exact .inr ⟨e, .filled hopens hv hnull hbare hrest⟩
    · simp only [not_exists, not_and, not_not] at hvalue
      rcases ih with ⟨out, missing, hrest⟩ | ⟨e, hrest⟩
      · exact .inl ⟨_, _, .left hopens hvalue hrest⟩
      · exact .inr ⟨e, .left hopens hvalue hrest⟩
  | case3 rest hnone ih =>
    have hstray := openToken?_eq_none_iff.1 hnone
    rcases ih with ⟨out, missing, hrest⟩ | ⟨e, hrest⟩
    · exact .inl ⟨_, _, .stray hstray hrest⟩
    · exact .inr ⟨e, .stray hstray hrest⟩
  | case4 c rest hc ih =>
    rcases ih with ⟨out, missing, hrest⟩ | ⟨e, hrest⟩
    · exact .inl ⟨_, _, .other hc hrest⟩
    · exact .inr ⟨e, .other hc hrest⟩

section Pieces
variable {p : Piece} {ps : List Piece} {filled rest : List Char}

theorem fillPieces_cons (hp : d.fillPiece p = .ok filled) (hps : d.fillPieces ps = .ok rest) :
    d.fillPieces (p :: ps) = .ok (filled ++ rest) := by
  simp only [fillPieces, hp, hps]
  rfl

theorem fillPieces_plain (c : Char) (hps : d.fillPieces ps = .ok rest) :
    d.fillPieces (.plain c :: ps) = .ok (c :: rest) :=
  fillPieces_cons (p := .plain c) rfl hps

theorem fillPieces_cons_error (hp : d.fillPiece p = .ok filled) (hps : d.fillPieces ps = .error e) :
    d.fillPieces (p :: ps) = .error e := by
  simp only [fillPieces, hp, hps]
  rfl

theorem fillPieces_of_error (hp : d.fillPiece p = .error e) (ps : List Piece) :
    d.fillPieces (p :: ps) = .error e := by
  simp only [fillPieces, hp]
  rfl

theorem fillPiece_of_lookup {v : Value} {x : String} (hv : d.lookup (String.ofList key) = some v) (hnull : v ≠ .null)
    (hx : v.bare = .ok x) : d.fillPiece (.token key) = .ok x.toList := by
  simp only [fillPiece, supplied?_of_lookup hv hnull, hx]
  rfl

theorem fillPiece_of_none (hnone : ∀ v, d.lookup (String.ofList key) = some v → v = .null) :
    d.fillPiece (.token key) = .ok ('\x7b' :: key ++ ['\x7d']) := by
  simp only [fillPiece, supplied?_of_none hnone, Piece.source]

end Pieces

/-- What a pass comes to is what the pieces of the text are filled with. -/
theorem Fills.eq_pieces (h : d.Fills text out missing) :
    d.fillPieces (pieces text) = .ok out ∧ missing = d.unresolved (pieces text) := by
  induction h with
  | done => simp [pieces, fillPieces, unresolved]
  | other hc rest ih =>
    rw [pieces_cons_of_ne hc]
    exact ⟨fillPieces_plain _ ih.1, ih.2⟩
  | stray hstray rest ih =>
    rw [pieces_of_stray hstray]
    exact ⟨fillPieces_plain _ ih.1, ih.2⟩
  | filled hopens hv hnull hx rest ih =>
    rw [pieces_of_opens hopens]
    exact ⟨fillPieces_cons (fillPiece_of_lookup hv hnull hx) ih.1,
      by simp [unresolved, supplied?_of_lookup hv hnull, ih.2]⟩
  | left hopens hnone rest ih =>
    rw [pieces_of_opens hopens]
    refine ⟨?_, by simp [unresolved, supplied?_of_none hnone, ih.2]⟩
    simpa using fillPieces_cons (fillPiece_of_none hnone) ih.1

/-- Where a pass breaks off, filling the pieces stops. -/
theorem Breaks.eq_pieces (h : d.Breaks text e) : d.fillPieces (pieces text) = .error e := by
  induction h with
  | here hopens hv hnull he =>
    rw [pieces_of_opens hopens]
    exact fillPieces_of_error (by simp only [fillPiece, supplied?_of_lookup hv hnull, he]; rfl) _
  | other hc rest ih =>
    rw [pieces_cons_of_ne hc]
    exact fillPieces_cons_error rfl ih
  | stray hstray rest ih =>
    rw [pieces_of_stray hstray]
    exact fillPieces_cons_error rfl ih
  | filled hopens hv hnull hx rest ih =>
    rw [pieces_of_opens hopens]
    exact fillPieces_cons_error (fillPiece_of_lookup hv hnull hx) ih
  | left hopens hnone rest ih =>
    rw [pieces_of_opens hopens]
    exact fillPieces_cons_error (fillPiece_of_none hnone) ih

/-- Without a closing brace there is no token. -/
theorem Fills.eq_of_not_mem (h : d.Fills text out missing) (hnot : '\x7d' ∉ text) : out = text := by
  induction h with
  | done => rfl
  | other hc rest ih => rw [ih fun hmem => hnot (List.mem_cons_of_mem _ hmem)]
  | stray hstray rest ih => rw [ih fun hmem => hnot (List.mem_cons_of_mem _ hmem)]
  | filled hopens hv hnull hx rest ih => exact absurd (List.mem_cons_of_mem _ hopens.mem) hnot
  | left hopens hnone rest ih => exact absurd (List.mem_cons_of_mem _ hopens.mem) hnot

theorem Fills.closed {after : List Char} (h : d.Fills ('\x7d' :: after) out missing) :
    ∃ out', out = '\x7d' :: out' := by
  cases h with
  | other hc rest => exact ⟨_, rfl⟩

/-- What comes out after a brace that opens nothing gives it nothing to open either. -/
theorem Fills.stray_out (h : d.Fills text out missing) (hstray : ∀ key after, ¬ OpensToken text key after)
    (key after : List Char) : ¬ OpensToken out key after := by
  rcases closed_or_not_mem_of_stray hstray with ⟨rest, rfl⟩ | hnot
  · obtain ⟨out', rfl⟩ := h.closed
    exact not_opensToken_of_closed
  · rw [h.eq_of_not_mem hnot]
    exact hstray key after

/-- A text without an opening brace is passed over. -/
theorem Fills.append {plain : List Char} (hplain : '\x7b' ∉ plain) (h : d.Fills text out missing) :
    d.Fills (plain ++ text) (plain ++ out) missing ∧ tokenNames (plain ++ text) = tokenNames text := by
  induction plain with
  | nil => exact ⟨h, rfl⟩
  | cons c rest ih =>
    obtain ⟨hc, hrest⟩ := List.ne_and_not_mem_of_not_mem_cons hplain
    obtain ⟨hfills, hnames⟩ := ih hrest
    exact ⟨.other hc.symm hfills, (tokenNames_cons_of_ne hc.symm).trans hnames⟩

/-- No text that is filled in for a token has an opening brace. -/
def Clean (d : Details) (text : List Char) : Prop :=
  ∀ k ∈ tokenNames text, ∀ v x, d.lookup k = some v → v ≠ .null → v.bare = .ok x → '\x7b' ∉ x.toList

/-- The tokens that come out are those that stand for nothing, and a second pass leaves all as it is. -/
theorem Fills.again (h : d.Fills text out missing) (hclean : d.Clean text) :
    d.Fills out out missing ∧ tokenNames out = missing := by
  induction h with
  | done => exact ⟨.done, by simp [tokenNames, pieces]⟩
  | other hc rest ih =>
    obtain ⟨hfills, hnames⟩ := ih (by rwa [Clean, tokenNames_cons_of_ne hc] at hclean)
    exact ⟨.other hc hfills, (tokenNames_cons_of_ne hc).trans hnames⟩
  | stray hstray rest ih =>
    obtain ⟨hfills, hnames⟩ := ih (by rwa [Clean, tokenNames_of_stray hstray] at hclean)
    have hout := rest.stray_out hstray
    exact ⟨.stray hout hfills, (tokenNames_of_stray hout).trans hnames⟩
  | filled hopens hv hnull hx rest ih =>
    rw [Clean, tokenNames_of_opens hopens, List.forall_mem_cons] at hclean
    obtain ⟨hfills, hnames⟩ := ih hclean.2
    have happend := hfills.append (hclean.1 _ _ hv hnull hx)
    exact ⟨happend.1, happend.2.trans hnames⟩
  | @left text key after out missing hopens hnone rest ih =>
    rw [Clean, tokenNames_of_opens hopens, List.forall_mem_cons] at hclean
    obtain ⟨hfills, hnames⟩ := ih hclean.2
    have hagain : OpensToken (key ++ '\x7d' :: out) key out := ⟨rfl, hopens.2⟩
    exact ⟨.left hagain hnone hfills, (tokenNames_of_opens hagain).trans (by rw [hnames])⟩

end Details

/-- The luck with more warnings logged. -/
def Luck.tell (luck : Luck) (ws : List Warning) : Luck := { luck with warnings := luck.warnings ++ ws }

/-- What is logged about the names in a text that stand for nothing. -/
def Details.complaint (missing : List String) (template : String) : List Warning :=
  if missing = [] then [] else [.unresolvedTokens missing template]

namespace Details
variable {σ : Type} {d : Details} {out : List Char} {missing : List String} {e : Fault}

theorem Fills.run {template : String} (h : d.Fills template.toList out missing) (s : σ) (luck : Luck) :
    (d.fill template) (s, luck) = .ok (String.ofList out) (s, luck.tell (complaint missing template)) := by
  obtain ⟨hfilled, rfl⟩ := h.eq_pieces
  simp only [fill, bind, EStateM.bind, hfilled, Turn.ofExcept, complaint]
  cases hmissing : d.unresolved (pieces template.toList) with
  | nil =>
    simp only [List.isEmpty_nil, Bool.not_true, Bool.false_eq_true, if_false, if_true, Luck.tell, List.append_nil]
    rfl
  | cons k rest => rfl

theorem Breaks.run {template : String} (h : d.Breaks template.toList e) (s : σ) (luck : Luck) :
    (d.fill template) (s, luck) = .error e (s, luck) := by
  simp only [fill, bind, EStateM.bind, h.eq_pieces, Turn.ofExcept]
  rfl

/-- Filling a text is one pass over it, of which there is just one outcome. The pass breaks off only at a value that
cannot be written, and then nothing has been logged. If nothing that is filled in has an opening brace, then the
tokens that come out are those that stand for nothing and filling again changes nothing. -/
theorem fill_in_one_pass (d : Details) (template : String) :
    (∃ out missing, d.Fills template.toList out missing ∧
      (∀ out' missing', d.Fills template.toList out' missing' → out' = out ∧ missing' = missing) ∧
      (∀ (s : σ) luck, (d.fill template) (s, luck) =
        .ok (String.ofList out) (s, luck.tell (complaint missing template))) ∧
      (d.Clean template.toList → tokenNames out = missing ∧
        ∀ (s : σ) luck, (d.fill (String.ofList out)) (s, luck) =
          .ok (String.ofList out) (s, luck.tell (complaint missing (String.ofList out))))) ∨
    ∃ e, d.Breaks template.toList e ∧ (∀ out missing, ¬ d.Fills template.toList out missing) ∧
      ∀ (s : σ) luck, (d.fill template) (s, luck) = .error e (s, luck) := by
  rcases d.fills_or_breaks template.toList with ⟨out, missing, h⟩ | ⟨e, h⟩
  · refine .inl ⟨out, missing, h, fun out' missing' h' => ?_, h.run, fun hclean => ?_⟩
    · obtain ⟨hout, rfl⟩ := h.eq_pieces
      obtain ⟨hout', rfl⟩ := h'.eq_pieces
      exact ⟨Except.ok.inj (hout'.symm.trans hout), rfl⟩
    · obtain ⟨hagain, hnames⟩ := h.again hclean
      exact ⟨hnames, (String.toList_ofList ▸ hagain : d.Fills (String.ofList out).toList out missing).run⟩
  · refine .inr ⟨e, h, fun out missing hfills => ?_, h.run⟩
    have heq := h.eq_pieces.symm.trans hfills.eq_pieces.1
    cases heq

/-- A text with a brace inside a name, an empty pair and a brace that is never closed. -/
def looseBraces : String :=
  "\x7bshape\x7d \x7b\x7bshape\x7d\x7d \x7btone\x7d\x7b\x7d\x7blost\x7d \x7b"

def looseDetails : Details := [("shape", .text "circle"), ("tone", .null)]

/-- Only the first token is filled: the second has a brace in its name, the third stands for null and the fourth is
not known. -/
theorem fill_in_one_pass_looseBraces : looseDetails.Clean looseBraces.toList ∧
    ∃ out missing, looseDetails.Fills looseBraces.toList out missing ∧ missing = ["\x7bshape", "tone", "lost"] ∧
      String.ofList out = "circle \x7b\x7bshape\x7d\x7d \x7btone\x7d\x7b\x7d\x7blost\x7d \x7b" ∧
      tokenNames out = missing ∧ ∀ (s : Unit) luck, (looseDetails.fill (String.ofList out)) (s, luck) =
        .ok (String.ofList out) (s, luck.tell (complaint missing (String.ofList out))) := by
  have hclean : looseDetails.Clean looseBraces.toList := by
    have hnames : tokenNames looseBraces.toList = ["shape", "\x7bshape", "tone", "lost"] := by decide +kernel
    rw [Clean, hnames]
    simp only [List.forall_mem_cons, List.not_mem_nil, false_imp_iff, implies_true, and_true]
    refine ⟨?_, nofun, ?_, nofun⟩
    · rintro v x ⟨⟩ - ⟨⟩
      decide
    · rintro v x ⟨⟩ hnull -
      exact absurd rfl hnull
  have hpieces : (looseDetails.fillPieces (pieces looseBraces.toList)).toOption =
      some "circle \x7b\x7bshape\x7d\x7d \x7btone\x7d\x7b\x7d\x7blost\x7d \x7b".toList := by decide +kernel
  rcases fill_in_one_pass (σ := Unit) looseDetails looseBraces with ⟨out, missing, h, -, -, hagain⟩ | ⟨e, h, -⟩
  · obtain ⟨hout, hmissing⟩ := h.eq_pieces
    rw [hout] at hpieces
    refine ⟨hclean, out, missing, h, ?_, ?_, hagain hclean⟩
    · rw [hmissing]
      decide +kernel
    · exact (congrArg String.ofList (Option.some.inj hpieces)).trans String.ofList_toList
  · rw [h.eq_pieces] at hpieces
    cases hpieces

end Details
end ShapePuzzle
