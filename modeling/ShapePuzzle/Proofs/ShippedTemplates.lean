import ShapePuzzle.Bank.Shipped
import ShapePuzzle.Proofs.QuietStatements
import ShapePuzzle.Proofs.ReliableRequirements

/-!
# The templates that come with the game

Each of them is reliable on grids of four rows or more, whatever its placeholders were drawn as: its statement is
drawn quietly, and its grids are made so that the statement holds or fails as ordered.
-/
namespace ShapePuzzle
variable {details : Details} {size : Int}

namespace Template

/-- Its texts name what is declared, and whatever is drawn for the placeholders, it is reliable for the details. -/
structure Sound (size : Int) (t : Template) : Prop where
  declares : t.declares = true
  draws : Draws (fun d => (∀ f ∈ t.fields, f.Sourced d) ∧
    ∀ d' : Details, (∀ k ∈ t.placeholders.keys, d'.lookup k = d.lookup k) → t.Reliable d' size) t.placeholders []

theorem reliable_of_rule {t : Template} {rule : Rule} (hrules : t.rules = [rule]) (h : rule.Reliable details size) :
    t.Reliable details size where
  nonempty := by simp [hrules]
  rules := by simpa [hrules] using h
  spares := by simp [hrules]

end Template

namespace Condition
variable {k word : String} {p q : Property} {c c' : Condition}

theorem hingesOn_shape (size : Int) (hk : details.lookup k = some (.text word)) (hword : word ∈ shapes) :
    (Shipped.isDetail .shape k).HingesOn details size .shape :=
  hingesOn_isDetail size hk (Property.mem_domain_shape.2 ⟨word, hword, rfl⟩)

theorem hingesOn_color (size : Int) (hk : details.lookup k = some (.text word)) (hword : word ∈ colors) :
    (Shipped.isDetail .color k).HingesOn details size .color :=
  hingesOn_isDetail size hk (Property.mem_domain_color.2 ⟨word, hword, rfl⟩)

theorem HingesOn.takesAt (h : c.HingesOn details size p) (place : Position) : c.TakesAt details size place :=
  fun _ hcell _ => h.takes hcell

theorem HingesOn.takesAt_pair (h : c.HingesOn details size p) (h' : c'.HingesOn details size q) (hpq : q ≠ p)
    (place : Position) : (Condition.all [c, c']).TakesAt details size place :=
  fun _ hcell _ => h.takes_pair h' hpq hcell

theorem HingesOn.tame_pair (h : c.HingesOn details size p) (h' : c'.HingesOn details size q) :
    (Condition.all [c, c']).Tame details size :=
  ⟨h.tame, h'.tame, trivial⟩

end Condition

namespace Shipped
open Template Condition Implication ComputedField

theorem sound_shapeRightNeighborColor : shapeRightNeighborColor.Sound size where
  declares := declares_of_chars rfl rfl rfl (by cbv)
  draws := by
    refine draws_shape fun s hs => draws_color fun c hc =>
      ⟨sourced_of_color "color" rfl (by simp [shapeRightNeighborColor]), fun d hd => ?_⟩
    have hshape : d.lookup "shape" = some (.text s) := hd "shape" (by decide)
    have hcolor : d.lookup "color" = some (.text c) := hd "color" (by decide)
    have hneighbor := sound_set size .right hcolor (Property.mem_domain_color.2 ⟨c, hc, rfl⟩)
    have hdomain := Property.mem_domain_shape.2 ⟨s, hs, rfl⟩
    refine reliable_of_rule rfl (Requirement.reliable_isDetail hshape hdomain hneighbor ?_)
    exact Requirement.separate_of_disjoint (by simp [Requirement.Straight]) (fun p => by cases p <;> rfl)
      (fun p => by cases p <;> rfl)

theorem sound_colorAboveNeighborComparison : colorAboveNeighborComparison.Sound size where
  declares := declares_of_chars rfl rfl rfl (by cbv)
  draws := by
    refine draws_color fun c hc => draws_comparison (by decide) fun w hw =>
      draws_number 2 9 rfl (by omega) (by omega) (by omega) fun t hlow hhigh =>
        ⟨sourced_of_color "color" rfl (by simp [colorAboveNeighborComparison]), fun d hd => ?_⟩
    have hcolor : d.lookup "color" = some (.text c) := hd "color" (by decide)
    have hcomparison : d.lookup "comparison" = some (.text w) := hd "comparison" (by decide)
    have hthreshold : d.lookup "threshold" = some (.int t) := hd "threshold" (by decide)
    have hneighbor := sound_ensureNumber size .above hcomparison hw hthreshold hlow hhigh
      (List.forall_mem_nil _) (List.forall_mem_nil _)
    have hdomain := Property.mem_domain_color.2 ⟨c, hc, rfl⟩
    refine reliable_of_rule rfl (Requirement.reliable_isDetail hcolor hdomain hneighbor ?_)
    exact Requirement.separate_of_disjoint (by simp [Requirement.Straight]) (fun p => by cases p <;> rfl)
      (fun p => by cases p <;> rfl)

theorem sound_shapeBelowNeighborColorComparison : shapeBelowNeighborColorComparison.Sound size where
  declares := declares_of_chars rfl rfl rfl (by cbv)
  draws := by
    refine draws_shape fun s hs => draws_color fun c hc => draws_comparison (by decide) fun w hw =>
      draws_number 2 9 rfl (by omega) (by omega) (by omega) fun t hlow hhigh =>
        ⟨sourced_of_color "color" rfl (by simp [shapeBelowNeighborColorComparison]), fun d hd => ?_⟩
    have hshape : d.lookup "shape" = some (.text s) := hd "shape" (by decide)
    have hcolor : d.lookup "color" = some (.text c) := hd "color" (by decide)
    have hcomparison : d.lookup "comparison" = some (.text w) := hd "comparison" (by decide)
    have hthreshold : d.lookup "threshold" = some (.int t) := hd "threshold" (by decide)
    have hset := sound_set size .below hcolor (Property.mem_domain_color.2 ⟨c, hc, rfl⟩)
    have hneighbor := sound_ensureNumber size .below hcomparison hw hthreshold hlow hhigh hset.actions hset.conditions
    have hdomain := Property.mem_domain_shape.2 ⟨s, hs, rfl⟩
    refine reliable_of_rule rfl (Requirement.reliable_isDetail hshape hdomain hneighbor ?_)
    exact Requirement.separate_of_disjoint (by simp [Requirement.Straight]) (fun p => by cases p <;> rfl)
      (fun p => by cases p <;> rfl)

theorem sound_nonColorShapeLeftNeighbor : nonColorShapeLeftNeighbor.Sound size where
  declares := declares_of_chars rfl rfl rfl (by cbv)
  draws := by
    refine draws_shape fun s hs => draws_otherShape rfl hs fun s₂ hs₂ hne => draws_color fun c hc =>
      ⟨sourced_of_color "color" rfl (by simp [nonColorShapeLeftNeighbor]), fun d hd => ?_⟩
    have hshape : d.lookup "shape" = some (.text s) := hd "shape" (by decide)
    have hshape₂ : d.lookup "shape2" = some (.text s₂) := hd "shape2" (by decide)
    have hcolor : d.lookup "color" = some (.text c) := hd "color" (by decide)
    have hfirst := hingesOn_shape size hshape hs
    have hsecond := (hingesOn_color size hcolor hc).not
    have hneighbor := sound_set size .left hshape₂ (Property.mem_domain_shape.2 ⟨s₂, hs₂, rfl⟩)
    exact reliable_of_rule rfl (Requirement.reliable hneighbor (hfirst.tame_pair hsecond)
      (fun _ => hfirst.takes_pair hsecond (by decide))
      (breakable_set hfirst.tame hcolor (Property.mem_domain_color.2 ⟨c, hc, rfl⟩))
      (.inr (sheltered_shape .left hne hshape hshape₂)))

theorem sound_highNumberShapeRightNeighborShape : highNumberShapeRightNeighborShape.Sound size where
  declares := declares_of_chars rfl rfl rfl (by cbv)
  draws := by
    refine draws_shape fun s hs => draws_otherShape rfl hs fun s₂ hs₂ hne =>
      draws_number 1 9 rfl (by omega) (by omega) (by omega) fun t hlow hhigh =>
        ⟨by simp [highNumberShapeRightNeighborShape], fun d hd => ?_⟩
    have hshape : d.lookup "shape" = some (.text s) := hd "shape" (by decide)
    have hshape₂ : d.lookup "shape2" = some (.text s₂) := hd "shape2" (by decide)
    have hthreshold : d.lookup "threshold" = some (.int t) := hd "threshold" (by decide)
    have hfirst := hingesOn_shape size hshape hs
    have hsecond := hingesOn_above size hthreshold hlow hhigh
    have hneighbor := sound_set size .right hshape₂ (Property.mem_domain_shape.2 ⟨s₂, hs₂, rfl⟩)
    exact reliable_of_rule rfl (Requirement.reliable hneighbor (hfirst.tame_pair hsecond)
      (fun _ => hfirst.takes_pair hsecond (by decide))
      (breakable_isDetail_and _ hshape (Property.mem_domain_shape.2 ⟨s, hs, rfl⟩))
      (.inr (sheltered_shape .right hne hshape hshape₂)))

variable (hsize : 4 ≤ size)
include hsize

theorem on_first : (Edge.left.corner size).On size :=
  Edge.on_corner (by omega)

theorem sound_shapeIsColor : shapeIsColor.Sound size where
  declares := declares_of_chars rfl rfl rfl (by cbv)
  draws := by
    refine draws_shape fun s hs => draws_color fun c hc =>
      ⟨sourced_of_color "color" rfl (by simp [shapeIsColor]), fun d hd => ?_⟩
    have hshape : d.lookup "shape" = some (.text s) := hd "shape" (by decide)
    have hcolor : d.lookup "color" = some (.text c) := hd "color" (by decide)
    have hcase := hingesOn_shape size hshape hs
    have hopposed := opposed_set hcase.tame hcolor (Property.mem_domain_color.2 ⟨c, hc, rfl⟩) rfl
    exact reliable_of_rule rfl (hopposed.reliable (on_first hsize) (hcase.takesAt _))

theorem sound_colorNumberAboveThreshold : colorNumberAboveThreshold.Sound size where
  declares := declares_of_chars rfl rfl rfl (by cbv)
  draws := by
    refine draws_color fun c hc => draws_number 1 9 rfl (by omega) (by omega) (by omega) fun t hlow hhigh =>
      ⟨sourced_of_color "color" rfl (by simp [colorNumberAboveThreshold]), fun d hd => ?_⟩
    have hcolor : d.lookup "color" = some (.text c) := hd "color" (by decide)
    have hthreshold : d.lookup "threshold" = some (.int t) := hd "threshold" (by decide)
    have hcase := hingesOn_color size hcolor hc
    have hopposed := opposed_ensure hcase.tame (hingesOn_above size hthreshold hlow hhigh) rfl
    exact reliable_of_rule rfl (hopposed.reliable (on_first hsize) (hcase.takesAt _))

theorem sound_shapeNumberParity : shapeNumberParity.Sound size where
  declares := declares_of_chars rfl rfl rfl (by cbv)
  draws := by
    refine draws_shape fun s hs => draws_parity fun w hw => ⟨by simp [shapeNumberParity, Sourced], fun d hd => ?_⟩
    have hshape : d.lookup "shape" = some (.text s) := hd "shape" (by decide)
    have hparity : d.lookup "parity" = some (.text w) := hd "parity" (by decide)
    have hcase := hingesOn_shape size hshape hs
    have hopposed := opposed_ensure hcase.tame (hingesOn_parity size hparity hw) rfl
    exact reliable_of_rule rfl (hopposed.reliable (on_first hsize) (hcase.takesAt _))

theorem sound_shapeShowsNumber : shapeShowsNumber.Sound size where
  declares := declares_of_chars rfl rfl rfl (by cbv)
  draws := by
    refine draws_shape fun s hs => draws_number 1 10 rfl (by omega) (by omega) (by omega) fun n hlow hhigh =>
      ⟨by simp [shapeShowsNumber], fun d hd => ?_⟩
    have hshape : d.lookup "shape" = some (.text s) := hd "shape" (by decide)
    have hnumber : d.lookup "number" = some (.int n) := hd "number" (by decide)
    have hcase := hingesOn_shape size hshape hs
    have hdomain : Value.int n ∈ Property.domain .number :=
      Property.mem_domain_number.2 ⟨n, mem_numbers.2 ⟨hlow, hhigh⟩, rfl⟩
    have hopposed := opposed_set hcase.tame hnumber hdomain rfl
    exact reliable_of_rule rfl (hopposed.reliable (on_first hsize) (hcase.takesAt _))

theorem sound_colorShapeNumberComparison : colorShapeNumberComparison.Sound size where
  declares := declares_of_chars rfl rfl rfl (by cbv)
  draws := by
    refine draws_shape fun s hs => draws_color fun c hc => draws_comparison (by decide) fun w hw =>
      draws_number 2 9 rfl (by omega) (by omega) (by omega) fun t hlow hhigh =>
        ⟨sourced_of_color "color" rfl (by simp [colorShapeNumberComparison]), fun d hd => ?_⟩
    have hshape : d.lookup "shape" = some (.text s) := hd "shape" (by decide)
    have hcolor : d.lookup "color" = some (.text c) := hd "color" (by decide)
    have hcomparison : d.lookup "comparison" = some (.text w) := hd "comparison" (by decide)
    have hthreshold : d.lookup "threshold" = some (.int t) := hd "threshold" (by decide)
    have hfirst := hingesOn_shape size hshape hs
    have hsecond := hingesOn_color size hcolor hc
    have hnumber := hingesOn_comparesWith size hcomparison hw hthreshold hlow hhigh
    have hopposed := opposed_ensure (hfirst.tame_pair hsecond) hnumber rfl
    exact reliable_of_rule rfl (hopposed.reliable (on_first hsize) (hfirst.takesAt_pair hsecond (by decide) _))

theorem sound_shapeParityColor : shapeParityColor.Sound size where
  declares := declares_of_chars rfl rfl rfl (by cbv)
  draws := by
    refine draws_shape fun s hs => draws_parity fun w hw => draws_color fun c hc =>
      ⟨sourced_of_color "color" rfl (by simp [shapeParityColor]), fun d hd => ?_⟩
    have hshape : d.lookup "shape" = some (.text s) := hd "shape" (by decide)
    have hparity : d.lookup "parity" = some (.text w) := hd "parity" (by decide)
    have hcolor : d.lookup "color" = some (.text c) := hd "color" (by decide)
    have hfirst := hingesOn_shape size hshape hs
    have hsecond := hingesOn_parity size hparity hw
    have hdomain : Value.text c ∈ Property.domain .color := Property.mem_domain_color.2 ⟨c, hc, rfl⟩
    have hopposed := opposed_set (hfirst.tame_pair hsecond) hcolor hdomain rfl
    exact reliable_of_rule rfl (hopposed.reliable (on_first hsize) (hfirst.takesAt_pair hsecond (by decide) _))

theorem sound_shapeMultipleColor : shapeMultipleColor.Sound size where
  declares := declares_of_chars rfl rfl rfl (by cbv)
  draws := by
    refine draws_shape fun s hs => draws_factor (by decide) (by decide) fun n hn => draws_color fun c hc =>
      ⟨sourced_of_color "color" rfl (by simp [shapeMultipleColor]), fun d hd => ?_⟩
    have hshape : d.lookup "shape" = some (.text s) := hd "shape" (by decide)
    have hfactor : d.lookup "factor" = some (.int n) := hd "factor" (by decide)
    have hcolor : d.lookup "color" = some (.text c) := hd "color" (by decide)
    have hfirst := hingesOn_shape size hshape hs
    have hsecond := hingesOn_multipleOf size hfactor hn
    have hdomain : Value.text c ∈ Property.domain .color := Property.mem_domain_color.2 ⟨c, hc, rfl⟩
    have hopposed := opposed_set (hfirst.tame_pair hsecond) hcolor hdomain rfl
    exact reliable_of_rule rfl (hopposed.reliable (on_first hsize) (hfirst.takesAt_pair hsecond (by decide) _))

theorem sound_shapeNumberBetween : shapeNumberBetween.Sound size where
  declares := declares_of_chars rfl rfl rfl (by cbv)
  draws := by
    refine draws_shape fun s hs => draws_number 1 5 rfl (by omega) (by omega) (by omega) fun lo hlo hfive =>
      draws_number (lo + 2) 8 rfl (by omega) (by omega) (by omega) fun hi hle height =>
        ⟨by simp [shapeNumberBetween], fun d hd => ?_⟩
    have hshape : d.lookup "shape" = some (.text s) := hd "shape" (by decide)
    have hlow : d.lookup "low" = some (.int lo) := hd "low" (by decide)
    have hhigh : d.lookup "high" = some (.int hi) := hd "high" (by decide)
    have hcase := hingesOn_shape size hshape hs
    have hnumber := hingesOn_between size hlow hhigh hlo (by omega) (by omega)
    have hopposed := opposed_ensure hcase.tame hnumber rfl
    exact reliable_of_rule rfl (hopposed.reliable (on_first hsize) (hcase.takesAt _))

theorem sound_shapeInRegion : shapeInRegion.Sound size where
  declares := declares_of_chars rfl rfl rfl (by cbv)
  draws := by
    refine draws_shape fun s hs => draws_edge fun e =>
      draws_int 1 3 rfl (by omega) (by omega) (by omega) fun n hlow hhigh =>
        ⟨by simp [shapeInRegion, Sourced], fun d hd => ?_⟩
    have hshape : d.lookup "shape" = some (.text s) := hd "shape" (by decide)
    have hedge : d.lookup "direction" = some (.text e.name) := hd "direction" (by decide)
    have hdepth : d.lookup "size" = some (.int n) := hd "size" (by decide)
    have hcase := hingesOn_shape size hshape hs
    refine reliable_of_rule rfl (reliable_region hcase.tame (fun _ => ⟨_, inRegion_detail hedge hdepth⟩)
      (breakable_isDetail hshape (Property.mem_domain_shape.2 ⟨s, hs, rfl⟩))
      (Edge.on_across (e := e) (by omega)) (fun cell hpos => ?_) (hcase.takesAt _))
    rw [inRegion_detail hedge hdepth, hpos, Edge.covers_across (by omega)]

theorem sound_primeShapeInRegion : primeShapeInRegion.Sound size where
  declares := declares_of_chars rfl rfl rfl (by cbv)
  draws := by
    refine draws_shape fun s hs => draws_edge fun e =>
      draws_int 1 3 rfl (by omega) (by omega) (by omega) fun n hlow hhigh =>
        ⟨by simp [primeShapeInRegion, Sourced], fun d hd => ?_⟩
    have hshape : d.lookup "shape" = some (.text s) := hd "shape" (by decide)
    have hedge : d.lookup "direction" = some (.text e.name) := hd "direction" (by decide)
    have hdepth : d.lookup "size" = some (.int n) := hd "size" (by decide)
    have hfirst := hingesOn_shape size hshape hs
    have hsecond := hingesOn_prime d size
    refine reliable_of_rule rfl (reliable_region (hfirst.tame_pair hsecond) (fun _ => ⟨_, inRegion_detail hedge hdepth⟩)
      (breakable_isDetail_and _ hshape (Property.mem_domain_shape.2 ⟨s, hs, rfl⟩))
      (Edge.on_across (e := e) (by omega)) (fun cell hpos => ?_) (hfirst.takesAt_pair hsecond (by decide) _))
    rw [inRegion_detail hedge hdepth, hpos, Edge.covers_across (by omega)]

/-- The antecedent can be forced onto a cell in the corner of the region. -/
theorem sound_shapeInRegionIsColor : shapeInRegionIsColor.Sound size where
  declares := declares_of_chars rfl rfl rfl (by cbv)
  draws := by
    refine draws_shape fun s hs => draws_color fun c hc => draws_edge fun e =>
      draws_int 1 3 rfl (by omega) (by omega) (by omega) fun n hlow hhigh =>
        ⟨sourced_of_color "color" rfl (by simp [shapeInRegionIsColor]), fun d hd => ?_⟩
    have hshape : d.lookup "shape" = some (.text s) := hd "shape" (by decide)
    have hcolor : d.lookup "color" = some (.text c) := hd "color" (by decide)
    have hedge : d.lookup "direction" = some (.text e.name) := hd "direction" (by decide)
    have hdepth : d.lookup "size" = some (.int n) := hd "size" (by decide)
    have hcase := hingesOn_shape size hshape hs
    have hregion : ∀ cell : Cell, (Condition.inRegion (detail "direction") (detail "size")).evaluate
        (cell.context d size) = .ok (e.covers size n cell.position) :=
      fun cell => (evaluate_inRegion rfl (resolve_detail hedge) (resolve_detail hdepth)).trans (e.isInRegion_eq _ _ _)
    have htame : (Condition.all [isDetail .shape "shape",
        .inRegion (detail "direction") (detail "size")]).Tame d size :=
      ⟨hcase.tame, fun cell _ => ⟨_, hregion cell⟩, trivial⟩
    have hopposed := opposed_set htame hcolor (Property.mem_domain_color.2 ⟨c, hc, rfl⟩) rfl
    refine reliable_of_rule rfl (hopposed.reliable (Edge.on_corner (e := e) (by omega)) fun cell hcell hpos => ?_)
    refine hcase.takes_with (by simp [reads, Ref.reads]) (fun c' hc' => ?_) hcell
    rw [hregion, hc', hpos, Edge.covers_corner (by omega)]

/-- The second rule writes only numbers, which the first does not look at. -/
theorem sound_shapeColorThenColorParity : shapeColorThenColorParity.Sound size where
  declares := declares_of_chars rfl rfl rfl (by cbv)
  draws := by
    refine draws_shape fun s hs => draws_color fun c hc => draws_parity fun w hw =>
      ⟨sourced_of_color "color" rfl (by simp [shapeColorThenColorParity]), fun d hd => ?_⟩
    have hshape : d.lookup "shape" = some (.text s) := hd "shape" (by decide)
    have hcolor : d.lookup "color" = some (.text c) := hd "color" (by decide)
    have hparity : d.lookup "parity" = some (.text w) := hd "parity" (by decide)
    have hfirst := hingesOn_shape size hshape hs
    have hsecond := hingesOn_color size hcolor hc
    have hnumber := hingesOn_parity size hparity hw
    have hset := opposed_set hfirst.tame hcolor (Property.mem_domain_color.2 ⟨c, hc, rfl⟩) rfl
    have hensure := opposed_ensure hsecond.tame hnumber rfl
    have hreliable := hensure.reliable (on_first hsize) (hsecond.takesAt _)
    refine ⟨by simp [shapeColorThenColorParity], ?_, ?_⟩
    · exact List.forall_mem_cons.2 ⟨hset.reliable (on_first hsize) (hfirst.takesAt _),
        List.forall_mem_singleton.2 hreliable⟩
    · refine List.pairwise_pair.2 (Rule.spares_implication hreliable.tame (List.forall_mem_singleton.2 hensure.sure) ?_)
      intro p hp
      refine List.forall_mem_singleton.2 (Bool.eq_false_iff.2 fun hw => ?_)
      rw [hnumber.reads p hw] at hp
      simp [Condition.reads?, reads, Ref.reads, CellAction.checks] at hp

theorem sound_easy : ∀ t ∈ easy, t.Sound size := by
  simp only [easy, List.forall_mem_cons, List.not_mem_nil, false_implies, implies_true, and_true]
  exact ⟨sound_shapeIsColor hsize, sound_colorNumberAboveThreshold hsize, sound_shapeInRegion hsize,
    sound_shapeNumberParity hsize, sound_shapeRightNeighborColor, sound_shapeShowsNumber hsize⟩

theorem sound_medium : ∀ t ∈ medium, t.Sound size := by
  simp only [medium, List.forall_mem_cons, List.not_mem_nil, false_implies, implies_true, and_true]
  exact ⟨sound_colorShapeNumberComparison hsize, sound_shapeParityColor hsize,
    sound_colorAboveNeighborComparison, sound_shapeMultipleColor hsize, sound_primeShapeInRegion hsize,
    sound_shapeNumberBetween hsize⟩

theorem sound_hard : ∀ t ∈ hard, t.Sound size := by
  simp only [hard, List.forall_mem_cons, List.not_mem_nil, false_implies, implies_true, and_true]
  exact ⟨sound_nonColorShapeLeftNeighbor, sound_shapeInRegionIsColor hsize,
    sound_shapeColorThenColorParity hsize, sound_shapeBelowNeighborColorComparison,
    sound_highNumberShapeRightNeighborShape⟩

end Shipped

namespace Bank
variable {tier : String} {ts : List Template} {t : Template}

private theorem sound_shipped (hsize : 4 ≤ size) (htier : (tier, ts) ∈ shipped) (ht : t ∈ ts) : t.Sound size := by
  simp only [shipped, List.mem_cons, Prod.mk.injEq, List.not_mem_nil, or_false] at htier
  rcases htier with ⟨-, rfl⟩ | ⟨-, rfl⟩ | ⟨-, rfl⟩
  · exact Shipped.sound_easy hsize t ht
  · exact Shipped.sound_medium hsize t ht
  · exact Shipped.sound_hard hsize t ht

/-- Whatever is drawn, every template that comes with the game draws its statement quietly, and with the details
of that statement it makes grids of four rows or more quietly, on which the statement holds or fails as ordered. -/
theorem shipped_as_ordered {σ : Type} {n : Int} (hn : 4 ≤ n) (htier : (tier, ts) ∈ shipped) (ht : t ∈ ts) (s : σ)
    (luck : Luck) :
    ∃ d luck₁, (t.state : Turn σ Statement) (s, luck) = .ok d (s, luck₁) ∧ luck₁.warnings = luck.warnings ∧
      ∀ (satisfies : Bool) (luck₂ : Luck), ∃ g luck₃,
        (t.buildGrid n satisfies d.details : Turn σ Grid) (s, luck₂) = .ok g (s, luck₃) ∧
          luck₃.warnings = luck₂.warnings ∧ t.verify g d.details = .ok satisfies := by
  have hsound : t.Sound n := sound_shipped hn htier ht
  obtain ⟨d, s₁, luck₁, hstate, hlog, hs₁, hreliable⟩ :=
    Template.quiet_state (s := s) hsound.declares hsound.draws luck
  rw [hs₁] at hstate
  refine ⟨d, luck₁, hstate, hlog, fun satisfies luck₂ => ?_⟩
  obtain ⟨g, s₂, luck₃, hbuild, hlog', hs₂, hverify⟩ :=
    hreliable.quiet_buildGrid (s := s) (by omega) satisfies luck₂
  rw [hs₂] at hbuild
  exact ⟨g, luck₃, hbuild, hlog', hverify⟩

theorem shipped_as_ordered_color :
    ("easy", Shipped.easy) ∈ shipped ∧ Shipped.shapeIsColor ∈ Shipped.easy ∧
      ∃ d luck₁, (Shipped.shapeIsColor.state : Turn Unit Statement) ((), .start fun _ => 0) = .ok d ((), luck₁) ∧
        luck₁.warnings = [] ∧ ∀ (satisfies : Bool) (luck₂ : Luck), ∃ g luck₃,
          (Shipped.shapeIsColor.buildGrid 4 satisfies d.details : Turn Unit Grid) ((), luck₂) = .ok g ((), luck₃) ∧
            luck₃.warnings = luck₂.warnings ∧ Shipped.shapeIsColor.verify g d.details = .ok satisfies := by
  have htier : ("easy", Shipped.easy) ∈ shipped := List.mem_cons_self
  have ht : Shipped.shapeIsColor ∈ Shipped.easy := List.mem_cons_self
  exact ⟨htier, ht, shipped_as_ordered (by decide) htier ht () (.start fun _ => 0)⟩

end Bank
end ShapePuzzle
