import Mathlib.Data.List.Nodup
import ShapePuzzle.Proofs.PlainValues
import ShapePuzzle.Proofs.CheckedReadings
import ShapePuzzle.Proofs.StatementRuns
import ShapePuzzle.Proofs.ValueEquality

/-!
# What is drawn for the placeholders of a template

Each placeholder is drawn within what it declares, as judged by what was drawn before it, and an interval that is
turned round is all that is logged on the way. The computed fields come after and only put their own names.
-/
namespace ShapePuzzle

namespace Range

/-- The value of a bound: what it refers to, moved by its offset, or else what is declared, or else the default. -/
inductive IsBound (before : Details) (declared : Option Int) (offset otherwise : Int) : Option String → Int → Prop where
  | referred {key m} (hkey : key ≠ "") (hm : before.lookup key = some (.int m)) :
      IsBound before declared offset otherwise (some key) (m + offset)
  | declared {ref} (href : ref = none ∨ ref = some "") :
      IsBound before declared offset otherwise ref (declared.getD otherwise)

def IsLow (r : Range) (before : Details) (otherwise : Int) : Int → Prop :=
  IsBound before r.low r.lowOffset otherwise r.lowRef

def IsHigh (r : Range) (before : Details) (otherwise : Int) : Int → Prop :=
  IsBound before r.high r.highOffset otherwise r.highRef

end Range

namespace Placeholder

/-- A word of the domain that no excluded detail is, unless each word of the domain is one. -/
def Chosen (before : Details) (domain excluded : List String) (v : Value) : Prop :=
  (∃ word ∈ domain, v = .text word) ∧
    ((∀ key ∈ excluded, ∃ w, before.lookup key = some w ∧ w ≠ v) ∨
      ∀ word ∈ domain, ∃ key ∈ excluded, before.lookup key = some (.text word))

/-- What may be drawn after the details `before`, and what is logged then. -/
def Admits (before : Details) (v : Value) (told : List Warning) : Placeholder → Prop
  | shape excluded => Chosen before shapes excluded v ∧ told = []
  | color excluded => Chosen before colors excluded v ∧ told = []
  | number r => ∃ low high n, r.IsLow before lowestNumber low ∧ r.IsHigh before highestNumber high ∧ v = .int n ∧
      lowestNumber ≤ n ∧ n ≤ highestNumber ∧
      (clampNumber low ≤ clampNumber high → clampNumber low ≤ n ∧ n ≤ clampNumber high ∧ told = []) ∧
      (clampNumber high < clampNumber low → n = clampNumber low ∧
        told = [.invertedInterval (clampNumber low) (clampNumber high)])
  | int r => ∃ low high n, r.IsLow before 0 low ∧ r.IsHigh before standardSize high ∧ v = .int n ∧
      min low high ≤ n ∧ n ≤ max low high ∧ told = []
  | choice options => v ∈ options ∧ told = []
  | comparison options => (∃ word ∈ options, v = .text word) ∧ told = []
  | parity => (∃ word ∈ parities, v = .text word) ∧ told = []
  | factor options => (∃ n ∈ options, v = .int n) ∧ told = []

end Placeholder

section Draws
variable {σ : Type} {st st' : σ × Luck} {before : Details} {v : Value}

namespace Range

theorem isBound_of_bound {declared : Option Int} {ref : Option String} {offset otherwise n : Int}
    (h : bound before declared ref offset otherwise = .ok n) : IsBound before declared offset otherwise ref n := by
  unfold bound named at h
  split at h
  · rename_i key keys hnamed
    split at hnamed
    · cases hnamed
    · cases hnamed
    · rename_i k hne
      cases hnamed
      obtain ⟨w, hw, h⟩ := except_bind_eq_ok.1 h
      split at h
      · cases h
        exact .referred hne (Details.find_eq_ok.1 hw)
      · cases h
  · rename_i hnamed
    cases h
    refine .declared ?_
    split at hnamed
    · exact .inl rfl
    · exact .inr rfl
    · cases hnamed

theorem isBound_of_bounds {r : Range} {low high a b : Int} (h : r.bounds before low high = .ok (a, b)) :
    r.IsLow before low a ∧ r.IsHigh before high b := by
  obtain ⟨l, hl, h⟩ := except_bind_eq_ok.1 h
  obtain ⟨u, hu, h⟩ := except_bind_eq_ok.1 h
  cases h
  exact ⟨isBound_of_bound hl, isBound_of_bound hu⟩

end Range

theorem clampNumber_bounds (n : Int) : lowestNumber ≤ clampNumber n ∧ clampNumber n ≤ highestNumber := by
  unfold clampNumber lowestNumber highestNumber
  omega

theorem mem_of_mapM_find {keys : List String} {values : List Value} (h : keys.mapM before.find = .ok values) :
    (∀ k ∈ keys, ∃ w ∈ values, before.lookup k = some w) ∧ ∀ w ∈ values, ∃ k ∈ keys, before.lookup k = some w := by
  induction keys generalizing values with
  | nil =>
    cases h
    simp
  | cons k rest ih =>
    rw [List.mapM_cons] at h
    obtain ⟨w, hw, h⟩ := except_bind_eq_ok.1 h
    obtain ⟨ws, hws, h⟩ := except_bind_eq_ok.1 h
    cases h
    obtain ⟨hkeys, hvalues⟩ := ih hws
    have hlookup := Details.find_eq_ok.1 hw
    constructor
    · intro j hj
      rcases List.mem_cons.1 hj with rfl | hj
      · exact ⟨w, List.mem_cons_self, hlookup⟩
      · obtain ⟨u, hu, hj⟩ := hkeys j hj
        exact ⟨u, List.mem_cons_of_mem w hu, hj⟩
    · intro u hu
      rcases List.mem_cons.1 hu with rfl | hu
      · exact ⟨k, List.mem_cons_self, hlookup⟩
      · obtain ⟨j, hj, hu⟩ := hvalues u hu
        exact ⟨j, List.mem_cons_of_mem k hj, hu⟩

theorem Value.text_isIn {word : String} {vs : List Value} : (text word).isIn vs = true ↔ text word ∈ vs := by
  simp only [isIn, List.any_eq_true, text_sameItem]
  constructor
  · rintro ⟨w, hw, rfl⟩
    exact hw
  · exact fun h => ⟨_, h, rfl⟩

namespace Placeholder

/-- The words of the domain are not empty, so nothing is missed when empty values are dropped. -/
theorem chosen_of_pickOther {domain excluded : List String} (hdomain : "" ∉ domain)
    (h : (pickOther domain excluded before : Turn σ Value) st = .ok v st') :
    Chosen before domain excluded v ∧ st'.2.warnings = st.2.warnings := by
  obtain ⟨values, st₁, hrun, h⟩ := Turn.bind_eq_ok.1 h
  obtain ⟨hvalues, rfl⟩ := Turn.ofExcept_eq_ok.1 hrun
  obtain ⟨hkeys, hlookup⟩ := mem_of_mapM_find hvalues
  obtain ⟨hv, -, hother⟩ := pickExcluding_spec h
  obtain ⟨word, hword, rfl⟩ := List.mem_map.1 hv
  have hexcluded : ∀ u ∈ domain, (Value.text u).isIn (values.filter Value.isTruthy) = true ↔ .text u ∈ values := by
    intro u hu
    have hne : u ≠ "" := fun heq => hdomain (heq ▸ hu)
    rw [Value.text_isIn, List.mem_filter]
    simp [Value.isTruthy, hne]
  refine ⟨⟨⟨word, hword, rfl⟩, ?_⟩, (silent_pickExcluding _ _).warnings_eq h⟩
  by_cases hleft : ∃ u ∈ domain, Value.text u ∉ values
  · obtain ⟨u, hu, hnot⟩ := hleft
    have hfree : (Value.text word).isIn (values.filter Value.isTruthy) = false :=
      hother ⟨.text u, List.mem_map_of_mem hu, Bool.eq_false_iff.2 fun hin => hnot ((hexcluded u hu).1 hin)⟩
    refine .inl fun k hk => ?_
    obtain ⟨w, hw, hk⟩ := hkeys k hk
    refine ⟨w, hk, ?_⟩
    rintro rfl
    simp [(hexcluded word hword).2 hw] at hfree
  · simp only [not_exists, not_and, not_not] at hleft
    exact .inr fun u hu => hlookup _ (hleft u hu)

theorem exists_of_pickWord {options : List String}
    (h : (do return Value.text (← pick options) : Turn σ Value) st = .ok v st') :
    (∃ word ∈ options, v = .text word) ∧ st'.2.warnings = st.2.warnings := by
  obtain ⟨word, st₁, hpick, h⟩ := Turn.bind_eq_ok.1 h
  obtain ⟨rfl, rfl⟩ := Turn.pure_eq_ok.1 h
  exact ⟨⟨word, (pick_spec hpick).1, rfl⟩, (silent_pick _).warnings_eq hpick⟩

/-- A draw is within what the placeholder admits. -/
theorem admits_of_draw {p : Placeholder} (h : (p.draw before : Turn σ Value) st = .ok v st') :
    ∃ told, st'.2.warnings = st.2.warnings ++ told ∧ p.Admits before v told := by
  have hquiet : ∀ {P : Prop}, P ∧ st'.2.warnings = st.2.warnings →
      ∃ told, st'.2.warnings = st.2.warnings ++ told ∧ P ∧ told = [] :=
    fun h => ⟨[], by rw [h.2, List.append_nil], h.1, rfl⟩
  cases p with
  | shape excluded => exact hquiet (chosen_of_pickOther (by decide) h)
  | color excluded => exact hquiet (chosen_of_pickOther (by decide) h)
  | number r =>
    obtain ⟨⟨low, high⟩, st₁, hrun, h⟩ := Turn.bind_eq_ok.1 h
    obtain ⟨hbounds, rfl⟩ := Turn.ofExcept_eq_ok.1 hrun
    obtain ⟨n, st₂, hpick, h⟩ := Turn.bind_eq_ok.1 h
    obtain ⟨rfl, rfl⟩ := Turn.pure_eq_ok.1 h
    obtain ⟨hlow, hhigh⟩ := Range.isBound_of_bounds hbounds
    have hl := clampNumber_bounds low
    have hu := clampNumber_bounds high
    rcases pickInteger_spec hpick with ⟨hle, hln, hnu, hlog⟩ | ⟨hlt, rfl, hlog⟩
    · exact ⟨[], by rw [hlog, List.append_nil], low, high, n, hlow, hhigh, rfl, by omega, by omega,
        fun _ => ⟨hln, hnu, rfl⟩, fun hlt => by omega⟩
    · exact ⟨_, hlog, low, high, _, hlow, hhigh, rfl, hl.1, hl.2, fun hle => by omega, fun _ => ⟨rfl, rfl⟩⟩
  | int r =>
    obtain ⟨⟨low, high⟩, st₁, hrun, h⟩ := Turn.bind_eq_ok.1 h
    obtain ⟨hbounds, rfl⟩ := Turn.ofExcept_eq_ok.1 hrun
    obtain ⟨hlow, hhigh⟩ := Range.isBound_of_bounds hbounds
    have hpick : ∀ {a b : Int}, a ≤ b → min low high = a → max low high = b →
        (do return Value.int (← pickInteger a b) : Turn σ Value) st = .ok v st' →
        ∃ told, st'.2.warnings = st.2.warnings ++ told ∧ (int r).Admits before v told := by
      intro a b hab hmin hmax h
      obtain ⟨n, st₂, hpick, h⟩ := Turn.bind_eq_ok.1 h
      obtain ⟨rfl, rfl⟩ := Turn.pure_eq_ok.1 h
      rcases pickInteger_spec hpick with ⟨-, han, hnb, hlog⟩ | ⟨hlt, -, -⟩
      · exact ⟨[], by rw [hlog, List.append_nil], low, high, n, hlow, hhigh, rfl, by omega, by omega, rfl⟩
      · omega
    dsimp only at h
    split at h
    · exact hpick (by omega) (by omega) (by omega) h
    · exact hpick (by omega) (by omega) (by omega) h
  | choice options => exact hquiet ⟨(pick_spec h).1, (silent_pick _).warnings_eq h⟩
  | comparison options => exact hquiet (exists_of_pickWord h)
  | parity => exact hquiet (exists_of_pickWord h)
  | factor options =>
    obtain ⟨n, st₁, hpick, h⟩ := Turn.bind_eq_ok.1 h
    obtain ⟨rfl, rfl⟩ := Turn.pure_eq_ok.1 h
    exact hquiet ⟨⟨n, (pick_spec hpick).1, rfl⟩, (silent_pick _).warnings_eq hpick⟩

end Placeholder

theorem Fields.put_of_not_mem {α : Type} {fs : Fields α} {k : String} (h : k ∉ fs.keys) (a : α) :
    fs.put k a = fs ++ [(k, a)] := by
  induction fs with
  | nil => rfl
  | cons f rest ih =>
    obtain ⟨hne, hrest⟩ := List.ne_and_not_mem_of_not_mem_cons h
    rw [put, if_neg (Ne.symm hne), ih hrest, List.cons_append]

namespace Template

/-- The placeholders are drawn one after the other, each judged by what was there before and what was drawn. -/
theorem drawPlaceholders_spec {ps : Fields Placeholder} {details : Details}
    (hnodup : (Fields.keys before ++ ps.keys).Nodup)
    (h : (drawPlaceholders before ps : Turn σ Details) st = .ok details st') :
    ∃ (drawn : Details) (told : List (List Warning)), details = before ++ drawn ∧ drawn.keys = ps.keys ∧
      told.length = ps.length ∧ st'.2.warnings = st.2.warnings ++ told.flatten ∧
      ∀ i key (p : Placeholder), ps[i]? = some (key, p) → ∃ v ws, drawn[i]? = some (key, v) ∧ told[i]? = some ws ∧
        p.Admits (before ++ drawn.take i) v ws := by
  induction ps generalizing before st with
  | nil =>
    obtain ⟨rfl, rfl⟩ := Turn.pure_eq_ok.1 h
    exact ⟨[], [], by simp, rfl, rfl, by simp, by simp⟩
  | cons f rest ih =>
    obtain ⟨key, p⟩ := f
    obtain ⟨v, st₁, hdraw, h⟩ := Turn.bind_eq_ok.1 h
    obtain ⟨ws, hws, hadmits⟩ := Placeholder.admits_of_draw hdraw
    have hkey : key ∉ Fields.keys before := fun hmem =>
      List.disjoint_of_nodup_append hnodup hmem List.mem_cons_self
    have hput : Fields.put before key v = before ++ [(key, v)] := Fields.put_of_not_mem hkey v
    rw [hput] at h
    have hrest : (Fields.keys (before ++ [(key, v)]) ++ Fields.keys rest).Nodup := by
      simpa [Fields.keys] using hnodup
    obtain ⟨drawn, told, rfl, hkeys, hlength, hlog, hall⟩ := ih hrest h
    refine ⟨(key, v) :: drawn, ws :: told, by simp, by simpa [Fields.keys] using hkeys, by simpa using hlength,
      by simp [hlog, hws], ?_⟩
    intro i k q hq
    cases i with
    | zero =>
      cases hq
      exact ⟨v, ws, rfl, rfl, by simpa using hadmits⟩
    | succ i =>
      obtain ⟨w, us, hw, hus, hadmits⟩ := hall i k q hq
      exact ⟨w, us, hw, hus, by simpa using hadmits⟩

/-- The names that are first seen among the computed fields, each where it is first computed. -/
def newKeys (known : List String) (fs : List ComputedField) : List String :=
  ((fs.map ComputedField.key).filter (· ∉ known)).eraseDups

theorem newKeys_cons_of_mem {known : List String} {f : ComputedField} {fs : List ComputedField} (h : f.key ∈ known) :
    newKeys known (f :: fs) = newKeys known fs := by
  simp [newKeys, h]

theorem newKeys_cons_of_not_mem {known : List String} {f : ComputedField} {fs : List ComputedField}
    (h : f.key ∉ known) : newKeys known (f :: fs) = f.key :: newKeys (known ++ [f.key]) fs := by
  have hfilter : (fun k => decide (k ∉ known ++ [f.key])) = fun k => !(k == f.key) && decide (k ∉ known) := by
    funext k
    by_cases hk : k = f.key
    · simp [hk]
    · simp [hk]
  simp only [newKeys, List.map_cons, List.filter_cons, h, not_false_eq_true, decide_true, if_true,
    List.eraseDups_cons, List.filter_filter, hfilter]

theorem computeFields_spec {fs : List ComputedField} {details : Details}
    (h : (computeFields before fs : Turn σ Details) st = .ok details st') :
    details.keys = before.keys ++ newKeys before.keys fs ∧
      ∀ k, k ∉ fs.map ComputedField.key → details.lookup k = before.lookup k := by
  induction fs generalizing before st with
  | nil =>
    obtain ⟨rfl, rfl⟩ := Turn.pure_eq_ok.1 h
    exact ⟨by simp [newKeys], fun _ _ => rfl⟩
  | cons f rest ih =>
    obtain ⟨v, st₁, -, h⟩ := Turn.bind_eq_ok.1 h
    obtain ⟨hkeys, hlookup⟩ := ih h
    constructor
    · rw [hkeys, Fields.keys_put]
      by_cases hmem : f.key ∈ before.keys
      · rw [if_pos hmem, newKeys_cons_of_mem hmem]
      · rw [if_neg hmem, newKeys_cons_of_not_mem hmem, List.append_assoc, List.singleton_append]
    · intro k hk
      obtain ⟨hne, hnot⟩ := List.ne_and_not_mem_of_not_mem_cons hk
      rw [hlookup k hnot, Fields.lookup_put_of_ne _ hne]

end Template
end Draws

section Reading
variable {α : Type}

theorem Value.keys_of_asEntries {read : Value → Checked α} {fs : List (String × Value)} {as : Fields α}
    (h : asEntries read fs = .good as) : as.keys = Fields.keys fs := by
  induction fs generalizing as with
  | nil =>
    cases h
    rfl
  | cons f fs ih =>
    obtain ⟨_, as, hcons, hrest, rfl⟩ := Checked.seq_eq_good.1 h
    obtain ⟨a, -, rfl⟩ := Checked.map_eq_good.1 hcons
    simpa [Fields.keys] using ih hrest

theorem Value.namesDistinct_of_mem {fs : List (String × Value)} (h : FieldNamesDistinct fs) {f : String × Value}
    (hf : f ∈ fs) : f.2.NamesDistinct := by
  induction fs with
  | nil => cases hf
  | cons g rest ih =>
    rcases List.mem_cons.1 hf with rfl | hf
    · exact h.1
    · exact ih h.2 hf

/-- A template that is read has placeholders of distinct names. -/
theorem Template.nodup_keys_of_read {v : Value} {t : Template} (hv : v.NamesDistinct) (h : Template.read v = .good t) :
    t.placeholders.keys.Nodup := by
  obtain ⟨fs, rfl, hassembled, -⟩ := assembled_of_read h
  obtain ⟨_, rules, hfive, -, rfl⟩ := Checked.seq_eq_good.1 (Checked.seqLeft_eq_good.1 hassembled).1
  obtain ⟨_, statement, hfour, -, rfl⟩ := Checked.seq_eq_good.1 hfive
  obtain ⟨_, fields, hthree, -, rfl⟩ := Checked.seq_eq_good.1 hfour
  obtain ⟨_, placeholders, htwo, hplaceholders, rfl⟩ := Checked.seq_eq_good.1 hthree
  obtain ⟨_, description, hone, -, rfl⟩ := Checked.seq_eq_good.1 htwo
  obtain ⟨id, -, rfl⟩ := Checked.map_eq_good.1 hone
  rcases Fields.exists_of_optional hplaceholders with hnone | ⟨f, hf, hread⟩
  · rw [hnone]
    exact List.nodup_nil
  · have hdistinct := Value.namesDistinct_of_mem hv.2 hf
    cases hobject : f.2 with
    | object gs =>
      rw [hobject] at hdistinct hread
      rw [Value.keys_of_asEntries hread]
      exact hdistinct.1
    | _ =>
      rw [hobject] at hread
      cases hread

end Reading

namespace Template

/-- What was drawn for the placeholders of a template, and what was logged for each of them. -/
structure Drawing (t : Template) (drawn : Details) (told : List (List Warning)) : Prop where
  keys : drawn.keys = t.placeholders.keys
  length : told.length = t.placeholders.length
  admits : ∀ i key (p : Placeholder), t.placeholders[i]? = some (key, p) →
    ∃ v ws, drawn[i]? = some (key, v) ∧ told[i]? = some ws ∧ p.Admits (drawn.take i) v ws

/-- The details of a template that was read come from drawing each placeholder as it is declared, judged by those
before it. Then come the names that are only computed, and a value is replaced only where its name is computed too. -/
theorem drawn_as_declared {σ : Type} {document : Value} {t : Template} {details : Details} {s s' : σ}
    {luck luck' : Luck} (hdistinct : document.NamesDistinct) (hread : Template.read document = .good t)
    (h : t.drawDetails (s, luck) = .ok details (s', luck')) :
    ∃ drawn told later, t.Drawing drawn told ∧ luck'.warnings = luck.warnings ++ told.flatten ++ later ∧
      (∀ w ∈ later, ∃ keys text, w = .unresolvedTokens keys text) ∧
      details.keys = t.placeholders.keys ++ newKeys t.placeholders.keys t.fields ∧
      ∀ key, key ∉ t.fields.map ComputedField.key → details.lookup key = drawn.lookup key := by
  simp only [drawDetails, Turn.bind_eq_ok, Turn.ofExcept_eq_ok, Turn.pure_eq_ok] at h
  obtain ⟨drawn, st₁, hdraw, computed, st₂, hcompute, -, st₃, ⟨-, rfl⟩, rfl, rfl⟩ := h
  have hnodup : (Fields.keys ([] : Details) ++ t.placeholders.keys).Nodup := nodup_keys_of_read hdistinct hread
  obtain ⟨drawn', told, rfl, hkeys, hlength, hlog, hadmits⟩ := drawPlaceholders_spec hnodup hdraw
  obtain ⟨-, later, hlater, hunresolved⟩ := logs_computeFields
    (W := fun w => ∃ keys text, w = .unresolvedTokens keys text) (fun _ _ => ⟨_, _, rfl⟩) _ _ hcompute
  obtain ⟨hnew, hlookup⟩ := computeFields_spec hcompute
  rw [hkeys] at hnew
  exact ⟨drawn, told, later, ⟨hkeys, hlength, hadmits⟩, by rw [hlater, hlog], hunresolved, hnew, hlookup⟩

/-- The number of the second bound starts above where it has to end, and a computed field has a name of its own. -/
def turnedRound : Value := .object [
  ("placeholders", .object [("form", .object [("type", .text "shape")]),
    ("other", .object [("type", .text "shape"), ("excludePlaceholders", .list [.text "form"])]),
    ("least", .object [("type", .text "number"), ("min", .int 8)]),
    ("most", .object [("type", .text "number"), ("minRef", .text "least"), ("minOffset", .int 1), ("max", .int 3)]),
    ("kind", .object [("type", .text "parity")])]),
  ("computedFields", .list [.object [("type", .text "parityPredicate"), ("key", .text "word"), ("source", .text "kind")]]),
  ("statement", .object [("text", .text "A"), ("fol", .text "F")]),
  ("rules", .list [.object [("type", .text "implication")]])]

theorem drawn_as_declared_turnedRound : ∃ t details luck', turnedRound.NamesDistinct ∧
    Template.read turnedRound = .good t ∧
    t.drawDetails ((), Luck.start (Luck.script [0])) = .ok details ((), luck') ∧
    details = [("form", .text "circle"), ("other", .text "square"), ("least", .int 8), ("most", .int 9),
      ("kind", .text "even"), ("word", .text "Even")] ∧
    luck'.warnings = [.invertedInterval 9 3] ∧
    ∃ drawn told later, t.Drawing drawn told ∧ luck'.warnings = told.flatten ++ later ∧
      details.keys = t.placeholders.keys ++ newKeys t.placeholders.keys t.fields ∧
      ∀ key, key ≠ "word" → details.lookup key = drawn.lookup key := by
  obtain ⟨t, details, luck', hread, hrun, hfields, hdetails, hlog⟩ : ∃ t details luck',
      Template.read turnedRound = .good t ∧
      t.drawDetails ((), Luck.start (Luck.script [0])) = .ok details ((), luck') ∧
      t.fields.map ComputedField.key = ["word"] ∧
      details = [("form", .text "circle"), ("other", .text "square"), ("least", .int 8), ("most", .int 9),
        ("kind", .text "even"), ("word", .text "Even")] ∧
      luck'.warnings = [.invertedInterval 9 3] := ⟨_, _, _, rfl, rfl, rfl, rfl, rfl⟩
  have hdistinct : turnedRound.NamesDistinct := by
    simp [turnedRound, Value.NamesDistinct, Value.FieldNamesDistinct, Value.ItemNamesDistinct, Fields.keys]
  obtain ⟨drawn, told, later, hdrawing, hwarnings, -, hkeys, hlookup⟩ := drawn_as_declared hdistinct hread hrun
  refine ⟨t, details, luck', hdistinct, hread, hrun, hdetails, hlog, drawn, told, later, hdrawing, hwarnings, hkeys, ?_⟩
  intro key hkey
  exact hlookup key (by simpa [hfields] using hkey)

end Template
end ShapePuzzle
