import ShapePuzzle.Bank.Easy
import ShapePuzzle.Proofs.CheckedReadings
import ShapePuzzle.Proofs.RuleFaults
import ShapePuzzle.Proofs.TurnOutcomes

/-!
# References of templates that were read

Reading a template fails unless every name that is read has been declared before. The walk that looks for the names
finds all that the template ever looks up, so the details of a statement have every one of them.
-/
namespace ShapePuzzle
variable {K : String → Prop} {E : Fault → Prop} {details : Details}

section Keys

/-- All placeholders that are read by the reference have a property. -/
def Ref.KeysMeet (K : String → Prop) (r : Ref) : Prop := ∀ k ∈ r.keys, K k

namespace Condition

mutual

/-- Every reference in a condition is among those that the walk through it lists. -/
theorem every_keysMeet : ∀ c : Condition, (∀ k ∈ c.keys, K k) → c.Every (Ref.KeysMeet K)
  | .all cs, h | .any cs, h => everyIn_keysMeet cs h
  | .not c, h => every_keysMeet c h
  | .prime _, h => h
  | .compare _ _ _, h | .parity _ _, h | .multipleOf _ _, h | .inRegion _ _, h => List.forall_mem_append.1 h
  | .between _ _ _, h => by
    obtain ⟨h, hhigh⟩ := List.forall_mem_append.1 h
    obtain ⟨hvalue, hlow⟩ := List.forall_mem_append.1 h
    exact ⟨hvalue, hlow, hhigh⟩

theorem everyIn_keysMeet : ∀ cs : List Condition, (∀ k ∈ keysOf cs, K k) → EveryIn (Ref.KeysMeet K) cs
  | [], _ => trivial
  | c :: cs, h => ⟨every_keysMeet c (List.forall_mem_append.1 h).1, everyIn_keysMeet cs (List.forall_mem_append.1 h).2⟩

end

theorem every_antecedentKeys {c? : Option Condition} (h : ∀ k ∈ antecedentKeys c?, K k) :
    ∀ c, c? = some c → c.Every (Ref.KeysMeet K) := by
  rintro c rfl
  exact every_keysMeet c h

end Condition

theorem CellAction.every_keysMeet {a : CellAction} (h : ∀ k ∈ a.keys, K k) : a.Every (Ref.KeysMeet K) := by
  cases a with
  | set p v => exact h
  | setDistinct p k => exact h
  | requireRegion d s => exact List.forall_mem_append.1 h
  | ensure c => exact c.every_keysMeet h
  | «break» c => exact c.every_keysMeet h

theorem CellAction.every_keysOf? {a? : Option CellAction} (h : ∀ k ∈ keysOf? a?, K k) :
    ∀ a, a? = some a → a.Every (Ref.KeysMeet K) := by
  rintro a rfl
  exact every_keysMeet h

theorem NeighborAction.every_keysMeet {a : NeighborAction} (h : ∀ k ∈ a.keys, K k) : a.Every (Ref.KeysMeet K) := by
  have hcompare : ∀ {c : ComparisonSpec} {key : String}, (∀ k ∈ c.keys ++ [key], K k) →
      c.Every (Ref.KeysMeet K) ∧ (Ref.placeholder key).KeysMeet K := by
    intro c key h
    obtain ⟨hspec, hkey⟩ := List.forall_mem_append.1 h
    cases c with
    | named op => exact ⟨trivial, hkey⟩
    | ref r => exact ⟨hspec, hkey⟩
  cases a with
  | set p v => exact h
  | setDistinct p k => exact h
  | ensureNumber c k => exact hcompare h
  | breakNumber c k => exact hcompare h

theorem Implication.every_keysMeet {r : Implication} (h : ∀ k ∈ (Rule.implication r).keys, K k) :
    r.Every (Ref.KeysMeet K) := by
  simp only [Rule.keys, List.forall_mem_append] at h
  obtain ⟨⟨⟨hantecedent, hactions⟩, hbreak⟩, hviolation⟩ := h
  exact {
    antecedent := Condition.every_antecedentKeys hantecedent
    actions := fun a ha => CellAction.every_keysMeet fun k hk => hactions k (List.mem_flatMap.2 ⟨a, ha, hk⟩)
    breakAntecedent := CellAction.every_keysOf? hbreak
    violation := CellAction.every_keysOf? hviolation }

theorem Requirement.every_keysMeet {r : Requirement} (h : ∀ k ∈ (Rule.requirement r).keys, K k) :
    r.Every (Ref.KeysMeet K) (Ref.KeysMeet K) := by
  simp only [Rule.keys, NeighborSpec.keys, List.forall_mem_append] at h
  obtain ⟨⟨hantecedent, ⟨⟨hdirection, hconditions⟩, hsatisfy⟩, hviolation⟩, hbreak⟩ := h
  refine {
    antecedent := Condition.every_antecedentKeys hantecedent
    direction := hdirection
    conditions := fun c hc => c.every_keysMeet fun k hk => hconditions k (List.mem_flatMap.2 ⟨c, hc, hk⟩)
    satisfy := fun a ha => NeighborAction.every_keysMeet fun k hk => hsatisfy k (List.mem_flatMap.2 ⟨a, ha, hk⟩)
    violation := fun a ha => NeighborAction.every_keysMeet ?_
    breakAntecedent := CellAction.every_keysOf? hbreak }
  simpa [ha] using hviolation

theorem Rule.every_keysMeet {rule : Rule} (h : ∀ k ∈ rule.keys, K k) :
    rule.Every (Ref.KeysMeet K) (Ref.KeysMeet K) := by
  cases rule with
  | implication r => exact Implication.every_keysMeet h
  | requirement r => exact Requirement.every_keysMeet h

end Keys

section Draws
variable {σ : Type} {st : σ × Luck}

theorem Details.stopsWith_find {k : String} (hk : details.has k) : StopsWith E (details.find k) := by
  obtain ⟨v, hv⟩ := Option.isSome_iff_exists.1 hk
  simp only [Details.find, hv]
  exact .ok v

theorem Details.stopsWith_lookup {k : String} (hE : E (.unresolved k)) : StopsWith E (details.find k) := by
  unfold Details.find
  split
  · exact .ok _
  · exact .error hE

variable (hE : ∀ e, e.OfOperation → E e)
include hE

namespace Range
variable {r : Range}

private theorem stopsWith_bound {ref : Option String} (h : ∀ k ∈ named ref, StopsWith E (details.find k))
    (declared : Option Int) (offset otherwise : Int) : StopsWith E (bound details declared ref offset otherwise) := by
  unfold bound
  split
  · rename_i key keys hnamed
    refine .bind (h key (by simp [hnamed])) fun v _ => ?_
    split
    · exact .pure _
    · exact .throw (Fault.telling_mem hE (fun _ => hE _ trivial) (Value.stopsWith_quoted _))
  · exact .ok _

theorem stopsWith_bounds (h : ∀ k ∈ r.references, StopsWith E (details.find k)) (low high : Int) :
    StopsWith E (r.bounds details low high) :=
  .bind (stopsWith_bound hE (List.forall_mem_append.1 h).1 _ _ _) fun _ _ =>
    .bind (stopsWith_bound hE (List.forall_mem_append.1 h).2 _ _ _) fun _ _ => .pure _

end Range

theorem Placeholder.stopsWith_draw {p : Placeholder} (h : ∀ k ∈ p.references, StopsWith E (details.find k)) :
    Turn.StopsWith E (p.draw details : Turn σ Value) := by
  have hother : ∀ domain excluded : List String, (∀ k ∈ excluded, StopsWith E (details.find k)) →
      Turn.StopsWith E (pickOther domain excluded details : Turn σ Value) :=
    fun domain excluded h => .bind (.ofExcept (.mapM h)) fun _ => stopsWith_pickExcluding (hE _ trivial) _ _
  cases p with
  | shape excluded => exact hother _ _ h
  | color excluded => exact hother _ _ h
  | number r =>
    exact .bind (.ofExcept (r.stopsWith_bounds hE h _ _)) fun b => .bind (stopsWith_pickInteger _ _) fun _ => .pure _
  | int r =>
    refine .bind (.ofExcept (r.stopsWith_bounds hE h _ _)) fun b => ?_
    dsimp only
    split
    · exact .bind (stopsWith_pickInteger _ _) fun _ => .pure _
    · exact .bind (stopsWith_pickInteger _ _) fun _ => .pure _
  | choice options => exact stopsWith_pick (hE _ trivial) _
  | comparison options => exact .bind (stopsWith_pick (hE _ trivial) _) fun _ => .pure _
  | parity => exact .bind (stopsWith_pick (hE _ trivial) _) fun _ => .pure _
  | factor options => exact .bind (stopsWith_pick (hE _ trivial) _) fun _ => .pure _

omit hE in
theorem Details.stopsWith_fillPiece (d : Details) (p : Piece) : StopsWith Fault.OfWriting (d.fillPiece p) := by
  unfold fillPiece
  split
  · exact .ok _
  · split
    · exact (Value.stopsWith_bare _).map _
    · exact .ok _

omit hE in
theorem Details.stopsWith_fillPieces (d : Details) (ps : List Piece) :
    StopsWith Fault.OfWriting (d.fillPieces ps) := by
  induction ps with
  | nil => exact .ok _
  | cons p ps ih => exact .bind (d.stopsWith_fillPiece p) fun _ _ => .bind ih fun _ _ => .pure _

theorem Details.stopsWith_fill (d : Details) (text : String) : Turn.StopsWith E (d.fill text : Turn σ String) := by
  refine .bind (.ofExcept ((d.stopsWith_fillPieces _).mono fun e he => hE e he.ofFilling.ofOperation)) fun filled => ?_
  dsimp only
  split
  · exact .bind (.warn _) fun _ => .pure _
  · exact .pure _

theorem ComputedField.stopsWith_compute {f : ComputedField} (h : ∀ k ∈ f.references, StopsWith E (details.find k)) :
    Turn.StopsWith E (f.compute details : Turn σ Value) := by
  have heither : ∀ source expected yes no : String, StopsWith E (details.find source) →
      StopsWith E (either details source expected yes no) :=
    fun source expected yes no h => .bind h fun _ _ => .pure _
  cases f with
  | colorName k s =>
    refine .ofExcept (.bind (h s (by simp [references])) fun v _ => ?_)
    unfold ShapePuzzle.colorName
    split
    · exact .ok _
    · exact .error (hE _ trivial)
  | comparisonWord k s => exact .ofExcept (heither _ _ _ _ (h s (by simp [references])))
  | comparisonSymbol k s => exact .ofExcept (heither _ _ _ _ (h s (by simp [references])))
  | parityPredicate k s => exact .ofExcept (heither _ _ _ _ (h s (by simp [references])))
  | regionDescription k d s =>
    have hbare : ∀ v : Value, StopsWith E v.bare := fun v =>
      v.stopsWith_bare.mono fun e he => hE e he.ofFilling.ofOperation
    exact .ofExcept (.bind (h d (by simp [references])) fun _ _ => .bind (h s (by simp [references])) fun _ _ =>
      .bind (hbare _) fun _ _ => .bind (hbare _) fun _ _ => .pure _)
  | stringTemplate k t => exact .bind (details.stopsWith_fill hE t) fun _ => .pure _

namespace Template
variable {known known' : List String}

omit hE in
private theorem mem_of_firstUnknown {refs : List String} (h : firstUnknown known refs = none) :
    ∀ k ∈ refs, k ∈ known := by
  simpa [firstUnknown] using h

omit hE in
private theorem has_put_of_known (h : ∀ k ∈ known, details.has k) (key : String) (v : Value) :
    ∀ k ∈ key :: known, (details.put key v).has k := by
  intro k hk
  rw [Fields.has_put, Bool.or_eq_true, decide_eq_true_eq]
  exact (List.mem_cons.1 hk).imp_right (h k)

/-- Details with all names known before a placeholder are enough to draw it, and have its name afterwards. -/
theorem meets_drawPlaceholders {ps : Fields Placeholder} (h : checkPlaceholders known ps = .ok known')
    (hd : ∀ k ∈ known, details.has k) :
    Turn.Meets (drawPlaceholders details ps) st (fun d _ => ∀ k ∈ known', d.has k) fun e _ => E e := by
  induction ps generalizing known details st with
  | nil =>
    cases h
    exact .pure hd
  | cons f rest ih =>
    obtain ⟨key, p⟩ := f
    simp only [checkPlaceholders] at h
    cases hrefs : firstUnknown known p.references with
    | some r => simp [hrefs] at h
    | none =>
      rw [hrefs] at h
      have hdraw : Turn.StopsWith E (p.draw details : Turn σ Value) :=
        p.stopsWith_draw hE fun k hk => Details.stopsWith_find (hd k (mem_of_firstUnknown hrefs k hk))
      refine (Turn.Meets.of_run (fun _ _ _ => trivial) fun _ _ hrun => hdraw hrun).bind
        (Q := fun _ _ => True) fun v _ _ => ?_
      exact ih h (has_put_of_known hd key v)

theorem meets_computeFields {fs : List ComputedField} (h : checkFields known fs = .ok known')
    (hd : ∀ k ∈ known, details.has k) :
    Turn.Meets (computeFields details fs) st (fun d _ => ∀ k ∈ known', d.has k) fun e _ => E e := by
  induction fs generalizing known details st with
  | nil =>
    cases h
    exact .pure hd
  | cons f rest ih =>
    simp only [checkFields] at h
    cases hrefs : firstUnknown known f.references with
    | some r => simp [hrefs] at h
    | none =>
      rw [hrefs] at h
      have hcompute : Turn.StopsWith E (f.compute details : Turn σ Value) :=
        f.stopsWith_compute hE fun k hk => Details.stopsWith_find (hd k (mem_of_firstUnknown hrefs k hk))
      refine (Turn.Meets.of_run (fun _ _ _ => trivial) fun _ _ hrun => hcompute hrun).bind
        (Q := fun _ _ => True) fun v _ _ => ?_
      exact ih h (has_put_of_known hd f.key v)

omit hE in
theorem keys_of_checkRules {rules : List Rule} {n : Nat} (h : checkRules known n rules = .ok ()) :
    ∀ rule ∈ rules, ∀ k ∈ rule.keys, k ∈ known := by
  induction rules generalizing n with
  | nil => simp
  | cons rule rest ih =>
    simp only [checkRules] at h
    cases hrefs : firstUnknown known rule.keys with
    | some r => simp [hrefs] at h
    | none =>
      rw [hrefs] at h
      exact List.forall_mem_cons.2 ⟨mem_of_firstUnknown hrefs, ih h⟩

variable {t : Template}

/-- A statement of a checked template is drawn without a fault of a reference, and its details have every name
that the rules read. -/
theorem meets_state (h : t.checkReferences = .ok ()) :
    Turn.Meets t.state st (fun s _ => ∀ rule ∈ t.rules, ∀ k ∈ rule.keys, s.details.has k) fun e _ => E e := by
  obtain ⟨drawn, hdrawn, h⟩ := except_bind_eq_ok.1 h
  obtain ⟨known, hknown, hrules⟩ := except_bind_eq_ok.1 h
  have hdetails : Turn.Meets t.drawDetails st (fun d _ => ∀ k ∈ known, d.has k) fun e _ => E e :=
    (meets_drawPlaceholders hE hdrawn (by simp)).bind fun d _ hd =>
      (meets_computeFields hE hknown hd).bind fun d _ hd =>
        .bind_ofExcept (fun _ _ => .pure hd) fun e he => hE e (Value.ofWriting_of_quoted he).ofFilling.ofOperation
  refine hdetails.bind fun d st₁ hd => ?_
  have hfill : ∀ (text : String) (st : σ × Luck), Turn.Meets (d.fill text) st (fun _ _ => True) fun e _ => E e :=
    fun text st => .of_run (fun _ _ _ => trivial) fun _ _ hrun => d.stopsWith_fill hE text hrun
  have hkeys : ∀ rule ∈ t.rules, ∀ k ∈ rule.keys, d.has k :=
    fun rule hrule k hk => hd k (keys_of_checkRules hrules rule hrule k hk)
  refine (hfill _ _).bind fun text _ _ => (hfill _ _).bind fun formal _ _ => ?_
  split
  · exact .pure hkeys
  · exact (hfill _ _).bind fun _ _ _ => .pure hkeys

omit hE in
theorem checkReferences_of_read {v : Value} (h : Template.read v = .good t) : t.checkReferences = .ok () := by
  obtain ⟨fs, -, -, hreferences⟩ := assembled_of_read h
  exact hreferences

end Template
end Draws

/-- A detail is looked up that is not there. -/
def Fault.LacksDetail : Fault → Prop
  | unresolved _ => True
  | _ => False

/-- A property is asked of a cell or a neighbor where none is looked at. -/
def Fault.LacksCell : Fault → Prop
  | noCell _ | noNeighbor _ => True
  | _ => False

/-- The reference can do without a neighbor. -/
def Ref.OnCell : Ref → Prop
  | neighborProperty _ => False
  | _ => True

theorem admits_lacksDetail (details : Details) :
    Admits (fun e => ¬ e.LacksDetail) details (Ref.KeysMeet fun k => details.has k)
      (Ref.KeysMeet fun k => details.has k) := by
  have hresolve : ∀ r : Ref, (r.KeysMeet fun k => details.has k) → ∀ ctx : Context, ctx.details = details →
      StopsWith (fun e => ¬ e.LacksDetail) (r.resolve ctx) := by
    rintro r hr ctx rfl
    cases r with
    | placeholder k => exact Details.stopsWith_find (hr k (by simp [Ref.keys]))
    | placeholderName k => exact Details.stopsWith_find (hr k (by simp [Ref.keys]))
    | cellProperty p =>
      simp only [Ref.resolve]
      split
      · exact .ok _
      · exact .error not_false
    | neighborProperty p =>
      simp only [Ref.resolve]
      split
      · exact .ok _
      · exact .error not_false
    | constant v => exact .ok v
    | number n => exact .ok _
  refine ⟨fun e he hlacks => ?_, fun r hr cell size => hresolve r hr _ rfl,
    fun r hr cell neighbor size => hresolve r hr _ rfl⟩
  cases e with
  | unresolved k => exact he
  | _ => exact hlacks

theorem admits_lacksCell (details : Details) :
    Admits (fun e => ¬ e.LacksCell) details Ref.OnCell fun _ => True := by
  have hfind : ∀ k, StopsWith (fun e => ¬ e.LacksCell) (details.find k) :=
    fun _ => Details.stopsWith_lookup not_false
  refine ⟨fun e he hlacks => ?_, fun r hr cell size => ?_, fun r _ cell neighbor size => ?_⟩
  · cases e with
    | noCell p => exact he
    | noNeighbor p => exact he
    | _ => exact hlacks
  · cases r with
    | placeholder k => exact hfind k
    | placeholderName k => exact hfind k
    | neighborProperty p => exact hr.elim
    | _ => exact .ok _
  · cases r with
    | placeholder k => exact hfind k
    | placeholderName k => exact hfind k
    | _ => exact .ok _

namespace Template

/-- Properties of a neighbor are read only where a rule looks at the neighbor. -/
def KeepsNeighborsApart (t : Template) : Prop := ∀ rule ∈ t.rules, rule.Every Ref.OnCell fun _ => True

/-- Drawing a statement never stops with such a fault, and neither does making a grid for the details of the
statement or checking one by them. -/
structure Avoids (fault : Fault → Prop) (t : Template) : Prop where
  state : ∀ σ : Type, Turn.StopsWith (fun e => ¬ fault e) (t.state : Turn σ Statement)
  buildGrid : ∀ {σ τ : Type} {st st' : σ × Luck} {s : Statement}, t.state st = .ok s st' →
    ∀ (size : Int) (satisfies : Bool),
      Turn.StopsWith (fun e => ¬ fault e) (t.buildGrid size satisfies s.details : Turn τ Grid)
  verify : ∀ {σ : Type} {st st' : σ × Luck} {s : Statement}, t.state st = .ok s st' →
    ∀ g : Grid, StopsWith (fun e => ¬ fault e) (t.verify g s.details)

variable {t : Template}

/-- A checked template draws statements without a fault of a reference, so it avoids a fault if its rules do for
the details drawn. -/
private theorem avoids_of_admits {fault : Fault → Prop} {P Q : Details → Ref → Prop}
    (hcheck : t.checkReferences = .ok ()) (hadmits : ∀ d, Admits (fun e => ¬ fault e) d (P d) (Q d))
    (hevery : ∀ d : Details, (∀ rule ∈ t.rules, ∀ k ∈ rule.keys, d.has k) → ∀ rule ∈ t.rules, rule.Every (P d) (Q d)) :
    t.Avoids fault where
  state _ _ _ _ h := (meets_state (hadmits []).other hcheck).error h
  buildGrid h size satisfies :=
    stopsWith_buildGrid (hadmits _) (hevery _ ((meets_state (hadmits []).other hcheck).ok h)) size satisfies
  verify h g := stopsWith_verify (hadmits _) (hevery _ ((meets_state (hadmits []).other hcheck).ok h)) g

/-- A template that was read never looks up a detail that is not there. If it reads properties of a neighbor only
where a rule looks at one, it never asks for a cell that is not there either. -/
theorem avoids_of_read {v : Value} (h : Template.read v = .good t) :
    t.Avoids Fault.LacksDetail ∧ (t.KeepsNeighborsApart → t.Avoids Fault.LacksCell) := by
  have hcheck := checkReferences_of_read h
  constructor
  · exact avoids_of_admits hcheck admits_lacksDetail fun d hd rule hrule => Rule.every_keysMeet (hd rule hrule)
  · exact fun hapart => avoids_of_admits hcheck admits_lacksCell fun _ _ => hapart

/-- The rule of this template compares the color of a neighbor with a detail. -/
theorem avoids_of_read_shapeRightNeighborColor :
    Template.read Shipped.shapeRightNeighborColor.toValue = .good Shipped.shapeRightNeighborColor ∧
      Shipped.shapeRightNeighborColor.KeepsNeighborsApart ∧
      (Shipped.shapeRightNeighborColor.state : Turn Unit Statement).returnsQuietly
        ((), Luck.start (Luck.script [0])) = true ∧
      Shipped.shapeRightNeighborColor.Avoids Fault.LacksDetail ∧
      Shipped.shapeRightNeighborColor.Avoids Fault.LacksCell := by
  have hread : Template.read Shipped.shapeRightNeighborColor.toValue = .good Shipped.shapeRightNeighborColor := rfl
  have hapart : Shipped.shapeRightNeighborColor.KeepsNeighborsApart := by
    rintro _ (_ | ⟨_, ⟨⟩⟩)
    refine ⟨?_, trivial, ?_, ?_, ?_, ?_⟩
    · rintro _ ⟨⟩
      exact ⟨trivial, trivial⟩
    · rintro _ (_ | ⟨_, ⟨⟩⟩)
      exact ⟨trivial, trivial⟩
    · rintro _ (_ | ⟨_, ⟨⟩⟩)
      exact trivial
    · rintro _ ⟨⟩
      exact trivial
    · rintro _ ⟨⟩
      exact trivial
  exact ⟨hread, hapart, by decide +kernel, (avoids_of_read hread).1, (avoids_of_read hread).2 hapart⟩

end Template
end ShapePuzzle
