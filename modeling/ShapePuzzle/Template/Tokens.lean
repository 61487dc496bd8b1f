import ShapePuzzle.Condition.Evaluation

/-!
# Tokens in a text

A token is a name between braces. It starts at a brace whose closing brace comes at least two characters later;
tokens are taken from the left and do not overlap.
-/
namespace ShapePuzzle

inductive Piece where
  | plain (c : Char)
  | token (key : List Char)
  deriving DecidableEq

namespace Piece

def source : Piece → List Char
  | plain c => [c]
  | token key => '\x7b' :: key ++ ['\x7d']

end Piece

/-- The name that a brace opens and what comes after it. -/
def openToken? (cs : List Char) : Option (List Char × List Char) :=
  match cs.takeWhile (· ≠ '\x7d'), cs.dropWhile (· ≠ '\x7d') with
  | k :: key, _ :: rest => some (k :: key, rest)
  | _, _ => none

theorem dropWhile_ne_cons {c x : Char} {cs rest : List Char} (h : cs.dropWhile (· ≠ c) = x :: rest) : x = c := by
  induction cs with
  | nil => simp at h
  | cons d ds ih =>
    by_cases hd : d = c
    · simp only [hd, ne_eq, not_true_eq_false, decide_false, Bool.false_eq_true, not_false_eq_true,
        List.dropWhile_cons_of_neg, List.cons.injEq] at h
      exact h.1.symm
    · rw [List.dropWhile_cons_of_pos (by simpa using hd)] at h
      exact ih h

theorem openToken?_eq {cs key rest : List Char} (h : openToken? cs = some (key, rest)) :
    cs = key ++ '\x7d' :: rest := by
  unfold openToken? at h
  split at h
  · rename_i hk hr
    simp only [Option.some.injEq, Prod.mk.injEq] at h
    rw [dropWhile_ne_cons hr] at hr
    rw [← List.takeWhile_append_dropWhile (p := (· ≠ '\x7d')) (l := cs), hk, hr, ← h.1, ← h.2]
  · simp at h

theorem openToken?_length {cs key rest : List Char} (h : openToken? cs = some (key, rest)) :
    rest.length < cs.length := by
  rw [openToken?_eq h]
  simp only [List.length_append, List.length_cons]
  omega

def pieces : List Char → List Piece
  | [] => []
  | c :: rest =>
    if c = '\x7b' then
      match _ : openToken? rest with
      | some (key, after) => .token key :: pieces after
      | none => .plain c :: pieces rest
    else .plain c :: pieces rest
termination_by cs => cs.length
decreasing_by
  · have := openToken?_length ‹openToken? rest = some (key, after)›
    simp only [List.length_cons]; omega
  · simp
  · simp

/-- The pieces of a text make up the text. -/
theorem flatMap_source_pieces (cs : List Char) : (pieces cs).flatMap Piece.source = cs := by
  fun_induction pieces cs with
  | case1 => rfl
  | case2 rest key after h ih =>
    simp [Piece.source, ih, openToken?_eq h]
  | case3 rest _ ih => simp [Piece.source, ih]
  | case4 c rest _ ih => simp [Piece.source, ih]

namespace Details

/-- What a token stands for: a value that is there and not null. -/
def supplied? (d : Details) (key : List Char) : Option Value :=
  match d.lookup (String.ofList key) with
  | none | some .null => none
  | some v => some v

def fillPiece (d : Details) (p : Piece) : Except Fault (List Char) :=
  match p with
  | .plain _ => .ok p.source
  | .token key => match d.supplied? key with
    | some v => String.toList <$> v.bare
    | none => .ok p.source

/-- The keys of the tokens that stand for nothing. -/
def unresolved (d : Details) (ps : List Piece) : List String :=
  ps.filterMap fun
    | .plain _ => none
    | .token key => if (d.supplied? key).isSome then none else some (String.ofList key)

/-- Fills the pieces one after the other; the first value that cannot be written ends it. -/
def fillPieces (d : Details) : List Piece → Except Fault (List Char)
  | [] => .ok []
  | p :: ps => do
    let filled ← d.fillPiece p
    return filled ++ (← fillPieces d ps)

/-- Replaces the tokens by their values; those that stand for nothing stay as they are, with a warning. -/
def fill (d : Details) (template : String) {σ : Type} : Turn σ String := do
  let filled ← Turn.ofExcept (d.fillPieces (pieces template.toList))
  let missing := d.unresolved (pieces template.toList)
  if !missing.isEmpty then Turn.warn (.unresolvedTokens missing template)
  return .ofList filled

end Details
end ShapePuzzle
