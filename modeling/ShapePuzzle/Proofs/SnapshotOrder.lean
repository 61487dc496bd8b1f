import Mathlib.Data.List.Perm.Basic
import Mathlib.Data.Prod.Lex
import ShapePuzzle.Proofs.RequirementEnforcement
import ShapePuzzle.Proofs.ValueEquality
import ShapePuzzle.Schema.Cell

/-!
# Snapshots in any order

The items of a snapshot are sorted by row and column before the grid is made of them. No two cells of a grid stand at
one position, so every order of the items gives back the same grid.
-/
namespace ShapePuzzle
open List (Forall₂)

section Order
variable {p q : Position}

/-- Where a position stands in the order by row, then by column. -/
def Position.place (p : Position) : Int ×ₗ Int := toLex (p.row, p.col)

theorem Position.place_injective (h : p.place = q.place) : p = q := by
  obtain ⟨hrow, hcol⟩ := Prod.mk.inj (toLex_inj.1 h)
  exact (Position.mk.injEq ..).mpr ⟨hrow, hcol⟩

theorem Position.place_lt_iff : p.place < q.place ↔ p.row < q.row ∨ p.row = q.row ∧ p.col < q.col := by
  simp only [place, Prod.Lex.lt_iff, ofLex_toLex]

/-- Counting row by row is counting in the order by row, then by column. -/
theorem Position.place_ofIndex_lt {size : Int} (hsize : 0 ≤ size) {j k : Nat} (h : j < k) :
    (ofIndex size j).place < (ofIndex size k).place := by
  have hj := Int.fmod_add_mul_fdiv j size
  have hk := Int.fmod_add_mul_fdiv k size
  have hrow : Int.fdiv j size ≤ Int.fdiv k size := by
    rw [Int.fdiv_eq_ediv_of_nonneg _ hsize, Int.fdiv_eq_ediv_of_nonneg _ hsize]
    rcases Int.lt_or_eq_of_le hsize with hpos | rfl
    · exact Int.ediv_le_ediv hpos (by omega)
    · simp
  rw [place_lt_iff]
  rcases Int.lt_or_eq_of_le hrow with hlt | heq
  · exact .inl hlt
  · rw [heq] at hj
    exact .inr ⟨heq, by simp only [ofIndex]; omega⟩

/-- The cells come in the order of their positions. -/
def Cell.InOrder (cs : List Cell) : Prop := cs.Pairwise fun a b => a.position.place ≤ b.position.place

theorem Grid.inOrder_cells {g : Grid} (hsize : 0 ≤ g.size) (hg : g.RowMajor) : Cell.InOrder g.cells := by
  refine List.pairwise_iff_getElem.2 fun j k hj hk hjk => ?_
  rw [hg (List.getElem?_eq_getElem hj), hg (List.getElem?_eq_getElem hk)]
  exact (Position.place_ofIndex_lt hsize hjk).le

/-- Cells in order are determined by which they are, since no two cells of a grid stand at one position. -/
theorem Grid.eq_cells_of_perm {g : Grid} (hsize : 0 ≤ g.size) (hg : g.RowMajor) {cs : List Cell}
    (hperm : cs.Perm g.cells) (hcs : Cell.InOrder cs) : cs = g.cells := by
  refine hperm.eq_of_pairwise (fun a b ha hb hab hba => ?_) hcs (inOrder_cells hsize hg)
  obtain ⟨j, hj⟩ := List.mem_iff_getElem?.1 (hperm.mem_iff.1 ha)
  obtain ⟨k, hk⟩ := List.mem_iff_getElem?.1 hb
  have hpos : a.position = b.position := Position.place_injective (le_antisymm hab hba)
  rw [hg hj, hg hk] at hpos
  obtain rfl := Position.ofIndex_injective g.size hpos
  rw [hj] at hk
  exact Option.some.inj hk

end Order

/-- The shape and the color are texts, and the number is an integer. -/
structure Cell.Typed (c : Cell) : Prop where
  shape : ∃ s, c.shape = .text s
  color : ∃ s, c.color = .text s
  number : ∃ n, c.number = .int n

namespace Snapshot
variable {e x : Entry} {c d : Cell} {es xs : List Entry} {cs ds : List Cell}

/-- The entry is sorted by the position of a cell, and the cell is read from it. -/
structure Entry.Holds (e : Entry) (c : Cell) : Prop where
  row : e.row = .int c.position.row
  col : e.col = .int c.position.col
  cell : e.cell = .ok c

/-- A cell is written as an item that is read as the same cell. -/
theorem exists_item (hc : c.Typed) : ∃ item e, c.snapshot = .ok item ∧ entry item = .ok e ∧ e.Holds c := by
  obtain ⟨⟨shape, hshape⟩, ⟨color, hcolor⟩, number, hnumber⟩ := hc
  obtain ⟨_, _, _, position⟩ := c
  subst hshape hcolor hnumber
  exact ⟨_, _, rfl, rfl, rfl, rfl, rfl⟩

theorem Entry.Holds.before (he : e.Holds c) (hx : x.Holds d) :
    e.before x = .ok (decide (c.position.place < d.position.place)) := by
  have hitems : Value.orderedItems? Ordering.isLT [e.row, e.col] [x.row, x.col] =
      some (decide (c.position.place < d.position.place)) := by
    rw [he.row, he.col, hx.row, hx.col]
    simp only [Value.orderedItems?, Value.int_sameItem_int, Position.place_lt_iff]
    have hlt : ∀ m n : Int, Value.ordered? Ordering.isLT (.int m) (.int n) = some (decide (m < n)) := Value.int_lt?
    split
    · rename_i hrow
      split
      · rename_i hcol
        simp [hrow, hcol, Ordering.isLT]
      · simp [hlt, hrow]
    · rename_i hrow
      simp [hlt, hrow]
  rw [Entry.before, hitems]
  rfl

/-- What is put in its place among entries in order leaves them in order. -/
theorem exists_insert (he : e.Holds c) (hxs : Forall₂ Entry.Holds xs cs) (hcs : Cell.InOrder cs) :
    ∃ ys ds, insert e xs = .ok ys ∧ Forall₂ Entry.Holds ys ds ∧ ds.Perm (c :: cs) ∧ Cell.InOrder ds := by
  induction hxs with
  | nil => exact ⟨[e], [c], rfl, .cons he .nil, .refl _, List.pairwise_singleton _ _⟩
  | @cons x d xs cs hx hxs ih =>
    obtain ⟨hd, hrest⟩ := List.pairwise_cons.1 hcs
    by_cases hlt : c.position.place < d.position.place
    · refine ⟨e :: x :: xs, c :: d :: cs, ?_, .cons he (.cons hx hxs), .refl _, List.pairwise_cons.2 ⟨?_, hcs⟩⟩
      · simp only [insert, he.before hx, hlt]
        rfl
      · exact List.forall_mem_cons.2 ⟨hlt.le, fun b hb => hlt.le.trans (hd b hb)⟩
    · obtain ⟨ys, ds, hinsert, hys, hperm, hds⟩ := ih hrest
      have hplaced : (d :: ds).Perm (c :: d :: cs) := (hperm.cons d).trans (.swap c d cs)
      refine ⟨x :: ys, d :: ds, ?_, .cons hx hys, hplaced, List.pairwise_cons.2 ⟨?_, hds⟩⟩
      · simp only [insert, he.before hx, hlt, hinsert]
        rfl
      · intro b hb
        rcases List.mem_cons.1 (hperm.mem_iff.1 hb) with rfl | hb
        · exact le_of_not_gt hlt
        · exact hd b hb

/-- Sorting returns the same entries in order. -/
theorem exists_sort (hes : Forall₂ Entry.Holds es ds) (hxs : Forall₂ Entry.Holds xs cs) (hcs : Cell.InOrder cs) :
    ∃ ys ws, sort xs es = .ok ys ∧ Forall₂ Entry.Holds ys ws ∧ ws.Perm (ds ++ cs) ∧ Cell.InOrder ws := by
  induction hes generalizing xs cs with
  | nil => exact ⟨xs, cs, rfl, hxs, .refl _, hcs⟩
  | @cons e d es ds he _ ih =>
    obtain ⟨zs, vs, hinsert, hzs, hinserted, hvs⟩ := exists_insert he hxs hcs
    obtain ⟨ys, ws, hsort, hys, hsorted, hws⟩ := ih hzs hvs
    refine ⟨ys, ws, ?_, hys, hsorted.trans ((hinserted.append_left ds).trans List.perm_middle), hws⟩
    simp only [sort, hinsert]
    exact hsort

theorem cells_of_holds (h : Forall₂ Entry.Holds es cs) : cells es = .ok cs := by
  induction h with
  | nil => rfl
  | cons he _ ih =>
    simp only [cells, he.cell, ih]
    rfl

/-- Entries of the items of cells hold the cells, in the order of the items. -/
theorem exists_entries {items : List Value} (h : Forall₂ (fun v c => ∃ e, entry v = .ok e ∧ e.Holds c) items cs) :
    ∃ es, entries items = .ok es ∧ Forall₂ Entry.Holds es cs := by
  induction h with
  | nil => exact ⟨[], rfl, .nil⟩
  | cons hv _ ih =>
    obtain ⟨e, hentry, he⟩ := hv
    obtain ⟨es, hentries, hes⟩ := ih
    refine ⟨e :: es, ?_, .cons he hes⟩
    simp only [entries, hentry, hentries]
    rfl

/-- The search for the side of a square ends at the side. -/
theorem sideFrom_mul_self {n k : Nat} (h : n ≤ k) : sideFrom (n * n) k = n := by
  induction k with
  | zero => exact (Nat.le_zero.1 h).symm
  | succ k ih =>
    rw [sideFrom]
    rcases Nat.lt_or_eq_of_le h with hlt | rfl
    · have hbeyond : n * n ≤ k * (k + 1) := Nat.mul_le_mul (by omega) h
      rw [if_neg (by omega), ih (by omega)]
    · have hnear : k * (k + 1) < (k + 1) * (k + 1) := Nat.mul_lt_mul_of_pos_right (by omega) (by omega)
      rw [if_pos hnear]

theorem side_mul_self (n : Nat) : side (n * n) = n :=
  sideFrom_mul_self (Nat.le_mul_self n)

end Snapshot

namespace Grid
variable {g : Grid}

theorem ofCells_cells (g : Grid) : ofCells g.size g.cells = .ok g := dif_pos g.square

theorem side_length_cells (hsize : 0 ≤ g.size) : (Snapshot.side g.cells.length : Int) = g.size := by
  obtain ⟨n, hn⟩ := Int.eq_ofNat_of_zero_le hsize
  have hlength : g.cells.length = n * n := by
    have hsquare := g.square
    rw [hn] at hsquare
    exact_mod_cast hsquare
  rw [hlength, Snapshot.side_mul_self, hn]

private theorem exists_items {cs : List Cell} (hcs : ∀ c ∈ cs, c.Typed) :
    ∃ items, cs.mapM Cell.snapshot = .ok items ∧
      Forall₂ (fun v c => ∃ e, Snapshot.entry v = .ok e ∧ e.Holds c) items cs := by
  induction cs with
  | nil => exact ⟨[], rfl, .nil⟩
  | cons c cs ih =>
    obtain ⟨hc, hrest⟩ := List.forall_mem_cons.1 hcs
    obtain ⟨item, e, hitem, he⟩ := Snapshot.exists_item hc
    obtain ⟨items, hitems, hall⟩ := ih hrest
    refine ⟨item :: items, ?_, .cons ⟨e, he⟩ hall⟩
    rw [List.mapM_cons, hitem, hitems]
    rfl

/-- A grid of texts and integers has a snapshot, and the grid itself is made of its items, in whatever order they
come. -/
theorem ofSnapshot_of_perm (hsize : 0 ≤ g.size) (hg : g.RowMajor) (htyped : ∀ c ∈ g.cells, c.Typed) :
    ∃ shown, g.snapshot = .ok shown ∧ ∀ items, items.Perm shown → ofSnapshot items = .ok g := by
  obtain ⟨shown, hshown, hholds⟩ := exists_items htyped
  refine ⟨shown, hshown, fun items hperm => ?_⟩
  obtain ⟨cs, hitems, hcs⟩ := List.perm_comp_forall₂ hperm hholds
  obtain ⟨es, hentries, hes⟩ := Snapshot.exists_entries hitems
  obtain ⟨ys, ws, hsort, hys, hws, horder⟩ := Snapshot.exists_sort hes .nil .nil
  rw [List.append_nil] at hws
  obtain rfl := eq_cells_of_perm hsize hg (hws.trans hcs) horder
  have hlength : items.length = g.cells.length := hperm.length_eq.trans hholds.length_eq
  simp only [ofSnapshot, hentries, hsort, Bind.bind, Except.bind, Snapshot.cells_of_holds hys, hlength,
    side_length_cells hsize, ofCells_cells]

/-- Two rows of two are made again of their items from the last one to the first. -/
theorem ofSnapshot_of_perm_reversed :
    let g := Requirement.pairOfRows ("circle", "#FF82A9") ("hexagon", "grey")
    0 ≤ g.size ∧ g.RowMajor ∧ (∀ c ∈ g.cells, c.Typed) ∧
      ∃ shown, g.snapshot = .ok shown ∧ ofSnapshot shown.reverse = .ok g := by
  intro g
  have hsize : 0 ≤ g.size := by decide
  have hg : g.RowMajor := Requirement.rowMajor_pairOfRows _ _
  have htyped : ∀ c ∈ g.cells, c.Typed := by
    have hpair : ∀ left right : String × String, ∀ c ∈ (Requirement.pairOfRows left right).cells, c.Typed := by
      intro left right c hc
      simp only [Requirement.pairOfRows, List.mem_cons, List.not_mem_nil, or_false] at hc
      rcases hc with rfl | rfl | rfl | rfl <;> exact ⟨⟨_, rfl⟩, ⟨_, rfl⟩, _, rfl⟩
    exact hpair _ _
  obtain ⟨shown, hshown, horders⟩ := ofSnapshot_of_perm hsize hg htyped
  exact ⟨hsize, hg, htyped, shown, hshown, horders _ shown.reverse_perm⟩

end Grid
end ShapePuzzle
