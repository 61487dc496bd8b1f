import ShapePuzzle.Proofs.QuietTurns
import ShapePuzzle.Proofs.WrittenValues
import ShapePuzzle.Template.Basic

/-!
# Statements that are drawn quietly

A placeholder that is ready is drawn without a fault and without a complaint, and what may be drawn for it is
known and can be written. If moreover every name in a text has been declared before, the statement is drawn quietly
as a whole.
-/
namespace ShapePuzzle
variable {σ : Type} {s : σ} {details : Details}

/-- A value of the domain that none of the excluded details has, unless they leave nothing. -/
def Value.Avoids (details : Details) (domain : List Value) (excluded : List String) (v : Value) : Prop :=
  ∀ values, excluded.mapM details.find = .ok values →
    (∃ w ∈ domain, w.isIn (values.filter isTruthy) = false) → v.isIn (values.filter isTruthy) = false

/-- The value can be written as one of the details, a level below them. -/
def Value.FitsDetails (v : Value) : Prop := v.nesting < deepestNesting ∧ v.isShort = true

theorem Value.fitsDetails_text (x : String) : (Value.text x).FitsDetails := by
  simp [FitsDetails, nesting, isShort, deepestNesting]

theorem Value.fitsDetails_int {n : Int} (h : (Number.int n).isShort = true) : (Value.int n).FitsDetails := by
  simp [FitsDetails, nesting, isShort, deepestNesting, h]

namespace Placeholder
variable {p : Placeholder}

/-- What has to be there for the placeholder to be drawn quietly. -/
def Ready (details : Details) : Placeholder → Prop
  | shape excluded | color excluded => ∃ values, excluded.mapM details.find = .ok values
  | number r => ∃ low high, r.bounds details lowestNumber highestNumber = .ok (low, high) ∧
      clampNumber low ≤ clampNumber high
  | int r => ∃ low high, r.bounds details 0 standardSize = .ok (low, high) ∧
      (Number.int low).isShort = true ∧ (Number.int high).isShort = true
  | choice options => options ≠ [] ∧ .null ∉ options ∧ ∀ v ∈ options, v.FitsDetails
  | comparison options => options ≠ []
  | parity => True
  | factor options => options ≠ [] ∧ ∀ n ∈ options, (Number.int n).isShort = true

/-- What may be drawn for the placeholder. -/
def Yields (details : Details) (v : Value) : Placeholder → Prop
  | shape excluded => v ∈ Property.domain .shape ∧ v.Avoids details (Property.domain .shape) excluded
  | color excluded => v ∈ Property.domain .color ∧ v.Avoids details (Property.domain .color) excluded
  | number r => ∃ low high n, r.bounds details lowestNumber highestNumber = .ok (low, high) ∧ v = .int n ∧
      clampNumber low ≤ n ∧ n ≤ clampNumber high
  | int r => ∃ low high n, r.bounds details 0 standardSize = .ok (low, high) ∧ v = .int n ∧
      min low high ≤ n ∧ n ≤ max low high
  | choice options => v ∈ options
  | comparison options => ∃ w ∈ options, v = .text w
  | parity => ∃ w ∈ parities, v = .text w
  | factor options => ∃ n ∈ options, v = .int n

private theorem quiet_pickOther {domain excluded : List String} {values : List Value} (hdomain : domain ≠ [])
    (hvalues : excluded.mapM details.find = .ok values) :
    Turn.Quiet (pickOther domain excluded details) s fun v s' => s' = s ∧ v ∈ domain.map Value.text ∧
      v.Avoids details (domain.map Value.text) excluded := by
  refine .bind_ofExcept hvalues (quiet_pickExcluding (by simpa using hdomain) fun v hv hother => ⟨rfl, hv, ?_⟩)
  intro values' hvalues' havailable
  rw [hvalues] at hvalues'
  cases hvalues'
  exact hother havailable

private theorem quiet_pickWord {options : List String} (hne : options ≠ []) :
    Turn.Quiet (do return Value.text (← pick options)) s fun v s' => s' = s ∧ ∃ w ∈ options, v = .text w := by
  refine .bind (Q := fun w s' => w ∈ options ∧ s' = s) (quiet_pick hne fun _ h => ⟨h, rfl⟩) ?_
  rintro w s' ⟨hw, rfl⟩
  exact .pure ⟨rfl, w, hw, rfl⟩

theorem quiet_draw (hp : p.Ready details) :
    Turn.Quiet (p.draw details) s fun v s' => s' = s ∧ p.Yields details v := by
  cases p with
  | shape excluded =>
    obtain ⟨values, hvalues⟩ := hp
    exact quiet_pickOther (by decide) hvalues
  | color excluded =>
    obtain ⟨values, hvalues⟩ := hp
    exact quiet_pickOther (by decide) hvalues
  | number r =>
    obtain ⟨low, high, hbounds, hle⟩ := hp
    refine .bind_ofExcept hbounds ?_
    refine .bind (Q := fun n s' => s' = s ∧ clampNumber low ≤ n ∧ n ≤ clampNumber high)
      (quiet_pickInteger hle fun n h h' => ⟨rfl, h, h'⟩) ?_
    rintro n s' ⟨rfl, hlow, hhigh⟩
    exact .pure ⟨rfl, low, high, n, hbounds, rfl, hlow, hhigh⟩
  | int r =>
    obtain ⟨low, high, hbounds, -, -⟩ := hp
    have hpick : ∀ {a b : Int}, a ≤ b → min low high = a → max low high = b →
        Turn.Quiet (do return Value.int (← pickInteger a b)) s fun v s' => s' = s ∧ (int r).Yields details v := by
      intro a b hab hmin hmax
      refine .bind (Q := fun n s' => s' = s ∧ a ≤ n ∧ n ≤ b) (quiet_pickInteger hab fun n h h' => ⟨rfl, h, h'⟩) ?_
      rintro n s' ⟨rfl, ha, hb⟩
      exact .pure ⟨rfl, low, high, n, hbounds, rfl, by omega, by omega⟩
    refine .bind_ofExcept hbounds ?_
    dsimp only
    split
    · exact hpick (by omega) (by omega) (by omega)
    · exact hpick (by omega) (by omega) (by omega)
  | choice options => exact quiet_pick hp.1 fun v hv => ⟨rfl, hv⟩
  | comparison options => exact quiet_pickWord hp
  | parity => exact quiet_pickWord (by decide)
  | factor options =>
    refine .bind (Q := fun n s' => n ∈ options ∧ s' = s) (quiet_pick hp.1 fun _ h => ⟨h, rfl⟩) ?_
    rintro n s' ⟨hn, rfl⟩
    exact .pure ⟨rfl, n, hn, rfl⟩

/-- What is drawn for a placeholder that is ready can be written. -/
theorem Yields.fitsDetails {v : Value} (hp : p.Ready details) (h : p.Yields details v) : v.FitsDetails := by
  cases p with
  | shape excluded =>
    obtain ⟨w, -, rfl⟩ := Property.mem_domain_shape.1 h.1
    exact Value.fitsDetails_text w
  | color excluded =>
    obtain ⟨w, -, rfl⟩ := Property.mem_domain_color.1 h.1
    exact Value.fitsDetails_text w
  | number r =>
    obtain ⟨low, high, n, -, rfl, hlow, hhigh⟩ := h
    refine Value.fitsDetails_int (Number.isShort_of_natAbs_le ?_)
    simp only [clampNumber, lowestNumber, highestNumber] at hlow hhigh
    omega
  | int r =>
    obtain ⟨low, high, hbounds, hlow, hhigh⟩ := hp
    obtain ⟨low', high', n, hbounds', rfl, hmin, hmax⟩ := h
    cases hbounds.symm.trans hbounds'
    rw [Number.isShort_int_iff] at hlow hhigh
    exact Value.fitsDetails_int (Number.isShort_int_iff.2 (by omega))
  | choice options => exact hp.2.2 v h
  | comparison options =>
    obtain ⟨w, -, rfl⟩ := h
    exact Value.fitsDetails_text w
  | parity =>
    obtain ⟨w, -, rfl⟩ := h
    exact Value.fitsDetails_text w
  | factor options =>
    obtain ⟨n, hn, rfl⟩ := h
    exact Value.fitsDetails_int (hp.2 n hn)

theorem Yields.ne_null {v : Value} (hp : p.Ready details) (h : p.Yields details v) : v ≠ .null := by
  cases p with
  | shape excluded =>
    obtain ⟨w, -, rfl⟩ := Property.mem_domain_shape.1 h.1
    nofun
  | color excluded =>
    obtain ⟨w, -, rfl⟩ := Property.mem_domain_color.1 h.1
    nofun
  | number r =>
    obtain ⟨low, high, n, -, rfl, -⟩ := h
    nofun
  | int r =>
    obtain ⟨low, high, n, -, rfl, -⟩ := h
    nofun
  | choice options =>
    rintro rfl
    exact hp.2.1 h
  | comparison options =>
    obtain ⟨w, -, rfl⟩ := h
    nofun
  | parity =>
    obtain ⟨w, -, rfl⟩ := h
    nofun
  | factor options =>
    obtain ⟨n, -, rfl⟩ := h
    nofun

end Placeholder

/-- The names of the tokens in a text. -/
def tokenNames (text : List Char) : List String :=
  (pieces text).filterMap fun
    | .plain _ => none
    | .token key => some (String.ofList key)

namespace Details

/-- The detail is there and is not null. -/
def Supplies (d : Details) (k : String) : Prop := ∃ v, d.lookup k = some v ∧ v ≠ .null

theorem Supplies.put {k j : String} {v : Value} (h : details.Supplies k) (hv : v ≠ .null) :
    Supplies (Fields.put details j v) k := by
  by_cases hkj : k = j
  · subst hkj
    exact ⟨v, Fields.lookup_put_self details k v, hv⟩
  · obtain ⟨w, hw, hne⟩ := h
    exact ⟨w, (Fields.lookup_put_of_ne details hkj v).trans hw, hne⟩

theorem supplies_put_self {k : String} {v : Value} (hv : v ≠ .null) : Supplies (Fields.put details k v) k :=
  ⟨v, Fields.lookup_put_self details k v, hv⟩

theorem supplied?_of_lookup {key : List Char} {v : Value} (hv : details.lookup (String.ofList key) = some v)
    (hnull : v ≠ .null) : details.supplied? key = some v := by
  rw [supplied?, hv]
  cases v with
  | null => exact absurd rfl hnull
  | _ => rfl

theorem lookup_of_supplied? {key : List Char} {v : Value} (h : details.supplied? key = some v) :
    details.lookup (String.ofList key) = some v := by
  unfold supplied? at h
  split at h
  · cases h
  · cases h
  · rename_i hlookup
    exact hlookup.trans h

/-- All details can be written, and so can the details as a whole. -/
def Writable (d : Details) : Prop := ∀ f ∈ d, f.2.FitsDetails

theorem Writable.put (h : details.Writable) {k : String} {v : Value} (hv : v.FitsDetails) :
    Writable (Fields.put details k v) := by
  intro f hf
  rcases Fields.eq_or_mem_of_mem_put hf with heq | hf
  · rwa [heq]
  · exact h f hf

theorem Writable.exists_bare (h : details.Writable) {k : String} {v : Value} (hv : details.lookup k = some v) :
    ∃ x, v.bare = .ok x := by
  obtain ⟨hdeep, hshort⟩ := h _ (Fields.mem_of_lookup hv)
  have hquoted : ∃ x, v.quoted = .ok x :=
    Value.exists_quoted_iff.2 (Value.isWritable_iff.2 ⟨Nat.le_of_lt hdeep, hshort⟩)
  cases v with
  | text x => exact ⟨x, rfl⟩
  | _ => exact hquoted

theorem Writable.exists_fillPiece (h : details.Writable) (p : Piece) :
    ∃ filled, details.fillPiece p = .ok filled := by
  cases p with
  | plain c => exact ⟨[c], rfl⟩
  | token key =>
    cases hv : details.supplied? key with
    | none => exact ⟨Piece.source (.token key), by simp only [fillPiece, hv]⟩
    | some v =>
      obtain ⟨x, hx⟩ := h.exists_bare (lookup_of_supplied? hv)
      exact ⟨x.toList, by simp only [fillPiece, hv, hx]; rfl⟩

theorem Writable.exists_fillPieces (h : details.Writable) (ps : List Piece) :
    ∃ filled, details.fillPieces ps = .ok filled := by
  induction ps with
  | nil => exact ⟨[], rfl⟩
  | cons p ps ih =>
    obtain ⟨filled, hfilled⟩ := h.exists_fillPiece p
    obtain ⟨rest, hrest⟩ := ih
    exact ⟨filled ++ rest, by simp only [fillPieces, hfilled, hrest]; rfl⟩

/-- A text whose tokens are all supplied is filled without a complaint. -/
theorem quiet_fill {text : String} (hd : details.Writable) (h : ∀ k ∈ tokenNames text.toList, details.Supplies k) :
    Turn.Quiet (details.fill text) s fun _ s' => s' = s := by
  have hnone : details.unresolved (pieces text.toList) = [] := by
    rw [unresolved, List.filterMap_eq_nil_iff]
    intro piece hpiece
    cases piece with
    | plain c => rfl
    | token key =>
      have hkey : String.ofList key ∈ tokenNames text.toList := List.mem_filterMap.2 ⟨_, hpiece, rfl⟩
      obtain ⟨v, hv, hne⟩ := h _ hkey
      simp only [supplied?_of_lookup hv hne, Option.isSome_some, if_true]
  obtain ⟨filled, hfilled⟩ := hd.exists_fillPieces (pieces text.toList)
  refine .bind_ofExcept hfilled ?_
  rw [hnone]
  exact .pure rfl

end Details

namespace ComputedField
variable {f : ComputedField}

/-- The details that the field is computed from. -/
def needs : ComputedField → List String
  | stringTemplate _ template => tokenNames template.toList
  | f => f.references

/-- A color that is to be named is a text. -/
def Sourced (details : Details) : ComputedField → Prop
  | colorName _ source => ∃ x, details.lookup source = some (.text x)
  | _ => True

theorem Sourced.put {k x : String} (h : f.Sourced details) : f.Sourced (Fields.put details k (.text x)) := by
  cases f with
  | colorName key source =>
    obtain ⟨y, hy⟩ := h
    by_cases hk : source = k
    · subst hk
      exact ⟨x, Fields.lookup_put_self details source (.text x)⟩
    · exact ⟨y, (Fields.lookup_put_of_ne details hk (.text x)).trans hy⟩
  | _ => trivial

/-- A template that names no color but one takes its fields from that one. -/
theorem sourced_of_color {fs : List ComputedField} {x : String} (k : String) (hk : details.lookup k = some (.text x))
    (hfs : ∀ f ∈ fs, ∀ key source, f = .colorName key source → source = k) : ∀ f ∈ fs, f.Sourced details := by
  intro f hf
  cases f with
  | colorName key source =>
    obtain rfl := hfs _ hf key source rfl
    exact ⟨x, hk⟩
  | _ => trivial

theorem quiet_compute (hd : details.Writable) (hneeds : ∀ k ∈ f.needs, details.Supplies k)
    (hsource : f.Sourced details) :
    Turn.Quiet (f.compute details) s fun v s' => s' = s ∧ ∃ x, v = .text x := by
  have heither : ∀ {source expected yes no : String}, details.Supplies source →
      Turn.Quiet (.ofExcept (either details source expected yes no)) s fun v s' => s' = s ∧ ∃ x, v = .text x := by
    rintro source expected yes no ⟨v, hv, -⟩
    exact .ofExcept (by simp only [either, Details.find_eq_ok.2 hv]; rfl) ⟨rfl, _, rfl⟩
  cases f with
  | colorName key source =>
    obtain ⟨x, hx⟩ := hsource
    exact .ofExcept (by simp only [Details.find_eq_ok.2 hx]; rfl) ⟨rfl, _, rfl⟩
  | comparisonWord key source => exact heither (hneeds source (List.mem_singleton_self source))
  | comparisonSymbol key source => exact heither (hneeds source (List.mem_singleton_self source))
  | parityPredicate key source => exact heither (hneeds source (List.mem_singleton_self source))
  | regionDescription key direction size =>
    obtain ⟨v, hv, -⟩ := hneeds direction List.mem_cons_self
    obtain ⟨n, hn, -⟩ := hneeds size (List.mem_cons_of_mem _ List.mem_cons_self)
    obtain ⟨x, hx⟩ := hd.exists_bare hv
    obtain ⟨y, hy⟩ := hd.exists_bare hn
    have hregion : ∃ z, describeRegion v n = .ok (.text z) := by
      simp only [describeRegion, hx, hy]
      exact ⟨_, rfl⟩
    obtain ⟨z, hz⟩ := hregion
    exact .ofExcept (by simp only [Details.find_eq_ok.2 hv, Details.find_eq_ok.2 hn]; exact hz) ⟨rfl, z, rfl⟩
  | stringTemplate key template =>
    refine .bind (Details.quiet_fill hd hneeds) ?_
    rintro x s' rfl
    exact .pure ⟨rfl, x, rfl⟩

/-- Every field needs what was declared before it and takes a new name. -/
def declares (known : List String) : List ComputedField → Bool
  | [] => true
  | f :: rest => f.needs.all known.contains && !known.contains f.key && declares (f.key :: known) rest

end ComputedField

namespace Template
variable {t : Template}

def declaresTokens (t : Template) (text : List Char) : Bool :=
  (tokenNames text).all (t.placeholders.keys ++ t.fields.map ComputedField.key).contains

/-- The fields and the texts of the template name nothing that was not declared before. -/
def declares (t : Template) : Bool :=
  ComputedField.declares t.placeholders.keys t.fields &&
    [t.statement.text, t.statement.formal, t.statement.hint].all fun text => t.declaresTokens text.toList

/-- Texts that are given as lists of characters are checked without decoding them. -/
theorem declares_of_chars {text formal hint : List Char} (htext : t.statement.text = .ofList text)
    (hformal : t.statement.formal = .ofList formal) (hhint : t.statement.hint = .ofList hint)
    (h : (ComputedField.declares t.placeholders.keys t.fields &&
      [text, formal, hint].all t.declaresTokens) = true) : t.declares = true := by
  simpa only [declares, htext, hformal, hhint, List.all_cons, List.all_nil, String.toList_ofList] using h

/-- Each placeholder is ready when its turn comes, and whatever is drawn, the details have a property then. -/
def Draws (Q : Details → Prop) : Fields Placeholder → Details → Prop
  | [], details => Q details
  | (key, p) :: rest, details => p.Ready details ∧ ∀ v, p.Yields details v → Draws Q rest (Fields.put details key v)

section Draws
variable {Q : Details → Prop} {key : String} {rest : Fields Placeholder}

theorem draws_shape (h : ∀ x ∈ shapes, Draws Q rest (Fields.put details key (.text x))) :
    Draws Q ((key, .shape []) :: rest) details := by
  refine ⟨⟨[], rfl⟩, fun v hv => ?_⟩
  obtain ⟨x, hx, rfl⟩ := Property.mem_domain_shape.1 hv.1
  exact h x hx

theorem draws_color (h : ∀ x ∈ colors, Draws Q rest (Fields.put details key (.text x))) :
    Draws Q ((key, .color []) :: rest) details := by
  refine ⟨⟨[], rfl⟩, fun v hv => ?_⟩
  obtain ⟨x, hx, rfl⟩ := Property.mem_domain_color.1 hv.1
  exact h x hx

/-- A second shape differs from the first. -/
theorem draws_otherShape {k x : String} (hk : details.lookup k = some (.text x)) (hx : x ∈ shapes)
    (h : ∀ y ∈ shapes, x ≠ y → Draws Q rest (Fields.put details key (.text y))) :
    Draws Q ((key, .shape [k]) :: rest) details := by
  have hvalues : [k].mapM details.find = .ok [.text x] := by
    simp only [List.mapM_cons, List.mapM_nil, Details.find_eq_ok.2 hk]
    rfl
  refine ⟨⟨_, hvalues⟩, fun v hv => ?_⟩
  obtain ⟨y, hy, rfl⟩ := Property.mem_domain_shape.1 hv.1
  refine h y hy fun hxy => ?_
  have htruthy : [Value.text x].filter Value.isTruthy = [.text x] := by
    refine List.filter_eq_self.2 (List.forall_mem_singleton.2 ?_)
    simp only [shapes, List.mem_cons, List.not_mem_nil, or_false] at hx
    rcases hx with rfl | rfl | rfl <;> rfl
  have hother := hv.2 _ hvalues
  rw [htruthy] at hother
  have hne := hother (Property.exists_other .shape (.text x))
  rw [Value.isIn_singleton, ← hxy, Value.text_sameItem.2 rfl] at hne
  cases hne

theorem draws_number {r : Range} (low high : Int)
    (hbounds : r.bounds details lowestNumber highestNumber = .ok (low, high)) (hlow : 1 ≤ low) (hle : low ≤ high)
    (hhigh : high ≤ 10) (h : ∀ n, low ≤ n → n ≤ high → Draws Q rest (Fields.put details key (.int n))) :
    Draws Q ((key, .number r) :: rest) details := by
  have hclampLow : clampNumber low = low := by
    simp only [clampNumber, lowestNumber, highestNumber]
    omega
  have hclampHigh : clampNumber high = high := by
    simp only [clampNumber, lowestNumber, highestNumber]
    omega
  refine ⟨⟨low, high, hbounds, by omega⟩, ?_⟩
  rintro v ⟨low', high', n, hbounds', rfl, hmin, hmax⟩
  cases hbounds.symm.trans hbounds'
  exact h n (by omega) (by omega)

theorem draws_int {r : Range} (low high : Int) (hbounds : r.bounds details 0 standardSize = .ok (low, high))
    (hlow : 0 ≤ low) (hle : low ≤ high) (hhigh : high ≤ 10)
    (h : ∀ n, low ≤ n → n ≤ high → Draws Q rest (Fields.put details key (.int n))) :
    Draws Q ((key, .int r) :: rest) details := by
  refine ⟨⟨low, high, hbounds, Number.isShort_of_natAbs_le (by omega), Number.isShort_of_natAbs_le (by omega)⟩, ?_⟩
  rintro v ⟨low', high', n, hbounds', rfl, hmin, hmax⟩
  cases hbounds.symm.trans hbounds'
  exact h n (by omega) (by omega)

theorem draws_comparison {options : List String} (hne : options ≠ [])
    (h : ∀ w ∈ options, Draws Q rest (Fields.put details key (.text w))) :
    Draws Q ((key, .comparison options) :: rest) details := by
  refine ⟨hne, ?_⟩
  rintro v ⟨w, hw, rfl⟩
  exact h w hw

theorem draws_parity (h : ∀ w ∈ parities, Draws Q rest (Fields.put details key (.text w))) :
    Draws Q ((key, .parity) :: rest) details := by
  refine ⟨trivial, ?_⟩
  rintro v ⟨w, hw, rfl⟩
  exact h w hw

theorem draws_factor {options : List Int} (hne : options ≠ []) (hsmall : ∀ n ∈ options, n.natAbs ≤ 10)
    (h : ∀ n ∈ options, Draws Q rest (Fields.put details key (.int n))) :
    Draws Q ((key, .factor options) :: rest) details := by
  refine ⟨⟨hne, fun n hn => Number.isShort_of_natAbs_le (hsmall n hn)⟩, ?_⟩
  rintro v ⟨n, hn, rfl⟩
  exact h n hn

/-- Each of the four edges may be drawn. -/
theorem draws_edge (h : ∀ e : Edge, Draws Q rest (Fields.put details key (.text e.name))) :
    Draws Q ((key, .choice [.text "left", .text "right", .text "top", .text "bottom"]) :: rest) details := by
  refine ⟨⟨by simp, by simp, by simp [Value.fitsDetails_text]⟩, fun v hv => ?_⟩
  have hedge : ∃ e : Edge, v = .text e.name := by
    simp only [Placeholder.Yields, List.mem_cons, List.not_mem_nil, or_false] at hv
    rcases hv with rfl | rfl | rfl | rfl
    · exact ⟨.left, rfl⟩
    · exact ⟨.right, rfl⟩
    · exact ⟨.top, rfl⟩
    · exact ⟨.bottom, rfl⟩
  obtain ⟨e, rfl⟩ := hedge
  exact h e

end Draws

private theorem quiet_drawPlaceholders {Q : Details → Prop} {ps : Fields Placeholder} {known : List String}
    (hdraws : Draws Q ps details) (hd : details.Writable) (hknown : ∀ k ∈ known, details.Supplies k) :
    Turn.Quiet (drawPlaceholders details ps) s fun d s' =>
      s' = s ∧ Q d ∧ d.Writable ∧ ∀ k, k ∈ known ∨ k ∈ ps.keys → d.Supplies k := by
  induction ps generalizing details known with
  | nil => exact .pure ⟨rfl, hdraws, hd, fun k hk => hknown k (hk.resolve_right List.not_mem_nil)⟩
  | cons p rest ih =>
    obtain ⟨hready, hrest⟩ := hdraws
    refine .bind (Placeholder.quiet_draw hready) ?_
    rintro v s' ⟨rfl, hv⟩
    have hne := hv.ne_null hready
    have hput : ∀ k ∈ p.1 :: known, Details.Supplies (Fields.put details p.1 v) k :=
      List.forall_mem_cons.2 ⟨Details.supplies_put_self hne, fun k hk => (hknown k hk).put hne⟩
    refine (ih (hrest v hv) (hd.put (hv.fitsDetails hready)) hput).mono fun d s' h =>
      ⟨h.1, h.2.1, h.2.2.1, fun k hk => h.2.2.2 k ?_⟩
    have hcons : k ∈ p.1 :: known ∨ k ∈ Fields.keys rest := by
      rcases hk with hk | hk
      · exact .inl (List.mem_cons_of_mem _ hk)
      · rcases List.mem_cons.1 hk with rfl | hk
        · exact .inl List.mem_cons_self
        · exact .inr hk
    exact hcons

private theorem quiet_computeFields {fs : List ComputedField} {known : List String}
    (hdeclares : ComputedField.declares known fs = true) (hd : details.Writable)
    (hknown : ∀ k ∈ known, details.Supplies k) (hsourced : ∀ f ∈ fs, f.Sourced details) :
    Turn.Quiet (computeFields details fs) s fun d s' => s' = s ∧ (∀ k ∈ known, d.lookup k = details.lookup k) ∧
      d.Writable ∧ ∀ k, k ∈ known ∨ k ∈ fs.map ComputedField.key → d.Supplies k := by
  induction fs generalizing details known with
  | nil => exact .pure ⟨rfl, fun _ _ => rfl, hd, fun k hk => hknown k (hk.resolve_right List.not_mem_nil)⟩
  | cons f rest ih =>
    simp only [ComputedField.declares, Bool.and_eq_true, List.all_eq_true, List.contains_iff_mem,
      Bool.not_eq_true', Bool.eq_false_iff, Ne] at hdeclares
    obtain ⟨⟨hneeds, hfresh⟩, hrest⟩ := hdeclares
    obtain ⟨hfirst, hothers⟩ := List.forall_mem_cons.1 hsourced
    refine .bind (ComputedField.quiet_compute hd (fun k hk => hknown k (hneeds k hk)) hfirst) ?_
    rintro v s' ⟨rfl, x, rfl⟩
    have hput : ∀ k ∈ f.key :: known, Details.Supplies (Fields.put details f.key (.text x)) k :=
      List.forall_mem_cons.2 ⟨Details.supplies_put_self nofun, fun k hk => (hknown k hk).put nofun⟩
    refine (ih hrest (hd.put (Value.fitsDetails_text x)) hput fun f' hf' => (hothers f' hf').put).mono fun d s' h =>
      ⟨h.1, fun k hk => ?_, h.2.2.1, fun k hk => ?_⟩
    · have hne : k ≠ f.key := fun heq => hfresh (heq ▸ hk)
      rw [h.2.1 k (List.mem_cons_of_mem _ hk), Fields.lookup_put_of_ne details hne]
    · refine h.2.2.2 k ?_
      rcases hk with hk | hk
      · exact .inl (List.mem_cons_of_mem _ hk)
      · rcases List.mem_cons.1 hk with rfl | hk
        · exact .inl List.mem_cons_self
        · exact .inr hk

/-- The statement of a template that draws its placeholders and declares its names is drawn quietly. The computed
fields leave the placeholders as they were drawn. -/
theorem quiet_state {Q : Details → Prop} (hdeclares : t.declares = true)
    (hdraws : Draws (fun d => (∀ f ∈ t.fields, f.Sourced d) ∧
      ∀ d' : Details, (∀ k ∈ t.placeholders.keys, d'.lookup k = d.lookup k) → Q d') t.placeholders []) :
    Turn.Quiet t.state s fun d s' => s' = s ∧ Q d.details := by
  simp only [declares, declaresTokens, Bool.and_eq_true, List.all_eq_true, List.contains_iff_mem,
    List.mem_append] at hdeclares
  obtain ⟨hfields, htexts⟩ := hdeclares
  have hdetails : Turn.Quiet t.drawDetails s fun d s' => s' = s ∧ Q d ∧ d.Writable ∧
      ∀ k, k ∈ t.placeholders.keys ∨ k ∈ t.fields.map ComputedField.key → d.Supplies k := by
    have hnone : ∀ k ∈ ([] : List String), Details.Supplies [] k := by simp
    refine .bind (quiet_drawPlaceholders hdraws (by simp [Details.Writable]) hnone) ?_
    rintro d s' ⟨rfl, ⟨hsourced, hQ⟩, hwritable, hsupplies⟩
    refine .bind (quiet_computeFields hfields hwritable (fun k hk => hsupplies k (.inr hk)) hsourced) ?_
    rintro d' s'' ⟨rfl, hkept, hwritable', hsupplies'⟩
    obtain ⟨x, hx⟩ := Value.exists_quoted_iff.2 (Value.isWritable_object_iff.2 hwritable')
    exact .bind_ofExcept hx (.pure ⟨rfl, hQ d' hkept, hwritable', hsupplies'⟩)
  refine .bind hdetails ?_
  rintro d s' ⟨rfl, hQ, hwritable, hsupplies⟩
  have hfill : ∀ {text : String}, text ∈ [t.statement.text, t.statement.formal, t.statement.hint] →
      Turn.Quiet (d.fill text) s' fun _ s'' => s'' = s' :=
    fun htext => Details.quiet_fill hwritable fun k hk => hsupplies k (htexts _ htext k hk)
  refine .bind (hfill (by simp)) ?_
  rintro text s'' rfl
  refine .bind (hfill (by simp)) ?_
  rintro formal s' rfl
  dsimp only
  split
  · exact .pure ⟨rfl, hQ⟩
  · refine .bind (hfill (by simp)) ?_
    rintro hint s'' rfl
    exact .pure ⟨rfl, hQ⟩

end Template
end ShapePuzzle
