import Skirmish.Proofs.Number.Rank
import Skirmish.Proofs.State.Location
import Skirmish.Script.Select

/-!
# What a selector picks

A selector lines up the units that it accepts, by id or by distance (`Selector.lineUp`), and picks
as many from the front as its limit allows. A unit is accepted if it passes every test of the
selector (`Selector.Accepts`). Sorting by distance is stable (`Order.pairwise_sort`) and distances
are numbers, so units at the same distance stand by id, and nobody who is left out stands before
one who is picked.
-/

namespace Skirmish.Script

/-! ## Who is accepted -/

/-- A unit is in a pool, as a caster of some team sees it. -/
def Pool.Holds (pool : Pool) (caster team : String) (id : String) (unit : Bag) : Prop :=
  match pool with
  | units => True
  | enemies => unit.team ≠ team
  | allies => unit.team = team ∧ id ≠ caster

/-- The place that a selector measures from. -/
def Selector.anchor? (s : Selector) (w : World) (b : Bindings) : Option Coord :=
  match s.anchor with
  | some ref => b.position? w ref
  | none => (w.unit? b.caster).map Bag.position

/-- A unit passes all tests of a selector. -/
structure Selector.Accepts (s : Selector) (w : World) (b : Bindings) (id : String) (unit : Bag) :
    Prop where
  present : w.unit? id = some unit
  alive : 0 < unit.hp
  targetable : unit.isUntargetable = false
  pooled : s.pool.Holds b.caster (((w.unit? b.caster).map Bag.team).getD "") id unit
  tagged : ∀ tag ∈ s.withTags, unit.hasTag tag = true
  inRange : ∀ range ∈ s.range, ∃ p, s.anchor? w b = some p ∧
    b.metric.within p unit.position (range.node.eval w b).asInt = true
  inArea : ∀ area ∈ s.area, ∃ caster shape, w.unit? b.caster = some caster ∧
    area.node.shape? w b (some caster.position) = some shape ∧
    shape.covers caster.position unit.position = true

theorem Pool.includes_iff {pool : Pool} {caster team id : String} {unit : Bag} :
    pool.includes caster team id unit = true ↔ pool.Holds caster team id unit := by
  cases pool <;> simp [includes, Holds]

theorem passes_iff {α : Type} {restriction : Option α} {anchor : Option Coord}
    {test : α → Coord → Bool} : passes restriction anchor test = true ↔
      ∀ r ∈ restriction, ∃ p, anchor = some p ∧ test r p = true := by
  cases restriction <;> cases anchor <;> simp [passes]

namespace Selector

variable {s : Selector} {w : World} {b : Bindings} {id : String} {unit : Bag}

/-- Whether an entry passes all tests of a selector. -/
def accepts (s : Selector) (w : World) (b : Bindings) (u : String × Bag) : Bool :=
  let caster := w.unit? b.caster
  let origin := caster.map Bag.position
  u.2.isAlive && !u.2.isUntargetable &&
    s.pool.includes b.caster ((caster.map Bag.team).getD "") u.1 u.2 &&
    s.withTags.all u.2.hasTag &&
    passes (s.range.map fun e => (e.node.eval w b).asInt) (s.anchor? w b)
      (fun r p => b.metric.within p u.2.position r) &&
    passes (s.area.map fun a => a.node.shape? w b origin) origin
      fun shape p => shape.any fun shape => shape.covers p u.2.position

theorem accepts_iff (hunit : w.unit? id = some unit) :
    s.accepts w b (id, unit) = true ↔ s.Accepts w b id unit := by
  have harea : (∀ shape ∈ s.area.map fun a =>
        a.node.shape? w b ((w.unit? b.caster).map Bag.position),
      ∃ p, (w.unit? b.caster).map Bag.position = some p ∧
        (shape.any fun shape => shape.covers p unit.position) = true) ↔
      ∀ area ∈ s.area, ∃ caster shape, w.unit? b.caster = some caster ∧
        area.node.shape? w b (some caster.position) = some shape ∧
        shape.covers caster.position unit.position = true := by
    cases w.unit? b.caster <;> simp [Option.any_eq_true]
  simp only [accepts, Bool.and_eq_true, Bool.not_eq_true', Bag.isAlive, decide_eq_true_eq,
    Pool.includes_iff, List.all_eq_true, passes_iff, harea]
  constructor
  · rintro ⟨⟨⟨⟨⟨halive, htargetable⟩, hpool⟩, htags⟩, hrange⟩, harea⟩
    refine ⟨hunit, halive, htargetable, hpool, htags, fun range hmem => ?_, harea⟩
    exact hrange _ (Option.mem_map_of_mem _ hmem)
  · intro h
    refine ⟨⟨⟨⟨⟨h.alive, h.targetable⟩, h.pooled⟩, h.tagged⟩, fun r hmem => ?_⟩, h.inArea⟩
    obtain ⟨range, hrange, rfl⟩ := Option.mem_map.1 hmem
    exact h.inRange range hrange

end Selector

/-! ## The order -/

/-- A distance may stand before another one. -/
def Order.Before (order : Order) (d e : Float) : Prop :=
  match order with
  | nearest => d ≤ e
  | farthest => e ≤ d

instance (order : Order) (d e : Float) : Decidable (order.Before d e) := by
  cases order <;> exact inferInstanceAs (Decidable (_ ≤ _))

section

variable {x y z : Float}

theorem Order.before_trans (order : Order) (hx : x.isNaN = false) (hy : y.isNaN = false)
    (hz : z.isNaN = false) (hxy : order.Before x y) (hyz : order.Before y z) :
    order.Before x z := by
  cases order with
  | nearest => exact Number.le_trans_of_numbers hx hy hz hxy hyz
  | farthest => exact Number.le_trans_of_numbers hz hy hx hyz hxy

theorem Order.before_total (order : Order) (hx : x.isNaN = false) (hy : y.isNaN = false) :
    order.Before x y ∨ order.Before y x := by
  cases order with
  | nearest => exact Number.le_total_of_numbers hx hy
  | farthest => exact Number.le_total_of_numbers hy hx

end

/-- What a stable sort does: elements come in order, and those that may stand either way stand as
they stood before. -/
theorem pairwise_mergeSort_stable {α : Type} (le : α → α → Bool) {stood : α → α → Prop}
    (trans : ∀ a b c, le a b → le b c → le a c) (total : ∀ a b, le a b || le b a) {l : List α}
    (h : l.Pairwise stood) :
    (l.mergeSort le).Pairwise fun a b => le a b ∧ (le b a → stood a b) := by
  induction l with
  | nil =>
    rw [List.mergeSort_nil]
    exact .nil
  | cons a l ih =>
    -- The first element comes in behind exactly those that have to stand before it.
    obtain ⟨hfirst, hrest⟩ := List.pairwise_cons.1 h
    obtain ⟨front, back, hwhole, hothers, hfront⟩ := List.mergeSort_cons trans total a l
    have hsorted := List.pairwise_mergeSort trans total (a :: l)
    have hmem : ∀ c ∈ back, c ∈ l := fun c hc =>
      List.mem_mergeSort.1 (hothers ▸ List.mem_append_right front hc)
    have hih := ih hrest
    rw [hothers] at hih
    rw [hwhole] at hsorted ⊢
    obtain ⟨hleft, hright, hacross⟩ := List.pairwise_append.1 hih
    obtain ⟨-, hbehind, hahead⟩ := List.pairwise_append.1 hsorted
    refine List.pairwise_append.2 ⟨hleft, List.pairwise_cons.2 ⟨fun c hc => ?_, hright⟩,
      fun d hd c hc => ?_⟩
    · exact ⟨List.rel_of_pairwise_cons hbehind hc, fun _ => hfirst c (hmem c hc)⟩
    · rcases List.mem_cons.1 hc with rfl | hc
      · refine ⟨hahead d hd c List.mem_cons_self, fun hle => ?_⟩
        have hnot := hfront d hd
        rw [hle] at hnot
        cases hnot
      · exact hacross d hd c hc

theorem Order.sort_eq {α : Type} (order : Order) (distance : α → Float) (l : List α) :
    order.sort distance l =
      l.mergeSort fun a b => decide (order.Before (distance a) (distance b)) := by
  cases order <;> rfl

/-- Sorting by numbers is stable. -/
theorem Order.pairwise_sort {α : Type} (distance : α → Float) {stood : α → α → Prop}
    (hnumber : ∀ a, (distance a).isNaN = false) (order : Order) {l : List α}
    (h : l.Pairwise stood) :
    (order.sort distance l).Pairwise fun a b => order.Before (distance a) (distance b) ∧
      (order.Before (distance b) (distance a) → stood a b) := by
  have hsorted := pairwise_mergeSort_stable
    (fun a b => decide (order.Before (distance a) (distance b)))
    (fun a b c hab hbc => ?_) (fun a b => ?_) h
  · simp only [decide_eq_true_eq] at hsorted
    rw [sort_eq]
    exact hsorted
  · rw [decide_eq_true_eq] at hab hbc ⊢
    exact order.before_trans (hnumber a) (hnumber b) (hnumber c) hab hbc
  · rw [Bool.or_eq_true, decide_eq_true_eq, decide_eq_true_eq]
    exact order.before_total (hnumber a) (hnumber b)

theorem Order.perm_sort {α : Type} (order : Order) (distance : α → Float) (l : List α) :
    (order.sort distance l).Perm l := by
  cases order <;> exact List.mergeSort_perm l _

namespace Selector

variable {s : Selector} {w : World} {b : Bindings} {id : String} {unit : Bag}

/-- The entries that a selector accepts, by id. -/
def accepted (s : Selector) (w : World) (b : Bindings) : List (String × Bag) :=
  w.units.entries.filter (s.accepts w b)

/-- The entries that a selector accepts, in the order in which it picks them. -/
def lineUp (s : Selector) (w : World) (b : Bindings) : List (String × Bag) :=
  match s.order, s.anchor? w b with
  | some order, some p =>
    order.sort (fun u : String × Bag => b.metric.distance p u.2.position) (s.accepted w b)
  | _, _ => s.accepted w b

/-- A selector picks from the front of its line. -/
theorem pick_eq (s : Selector) (w : World) (b : Bindings) :
    s.pick w b =
      match s.limit with
      | some e => ((s.lineUp w b).map Prod.fst).take (e.node.eval w b).asInt.toInt.toNat
      | none => (s.lineUp w b).map Prod.fst := by
  have hpick : s.pick w b = List.map Prod.fst (match s.limit with
      | some e => (s.lineUp w b).take (e.node.eval w b).asInt.toInt.toNat
      | none => s.lineUp w b) := rfl
  rw [hpick]
  cases s.limit with
  | none => rfl
  | some e => exact List.map_take

/-- Who is not picked stands behind everybody who is. -/
theorem exists_lineUp_eq_append (s : Selector) (w : World) (b : Bindings) :
    ∃ rest, (s.lineUp w b).map Prod.fst = s.pick w b ++ rest := by
  rw [pick_eq]
  cases s.limit with
  | none => exact ⟨[], (List.append_nil _).symm⟩
  | some e => exact ⟨_, (List.take_append_drop _ _).symm⟩

theorem perm_lineUp (s : Selector) (w : World) (b : Bindings) :
    (s.lineUp w b).Perm (s.accepted w b) := by
  unfold lineUp
  split
  · exact Order.perm_sort ..
  · exact .refl _

theorem mem_lineUp_iff : (id, unit) ∈ s.lineUp w b ↔ s.Accepts w b id unit := by
  rw [(perm_lineUp s w b).mem_iff, accepted, List.mem_filter, ← NameMap.get?_eq_some_iff]
  constructor
  · rintro ⟨hunit, haccepts⟩
    exact (accepts_iff hunit).1 haccepts
  · intro h
    exact ⟨h.present, (accepts_iff h.present).2 h⟩

theorem nodup_lineUp (s : Selector) (w : World) (b : Bindings) :
    ((s.lineUp w b).map Prod.fst).Nodup := by
  rw [((perm_lineUp s w b).map Prod.fst).nodup_iff]
  exact (List.filter_sublist.map Prod.fst).nodup w.units.nodup_names

theorem pairwise_accepted (s : Selector) (w : World) (b : Bindings) :
    (s.accepted w b).Pairwise fun u v => u.1 < v.1 :=
  w.units.sorted.filter _

theorem pairwise_lineUp_of_unordered (h : s.order = none ∨ s.anchor? w b = none) :
    ((s.lineUp w b).map Prod.fst).Pairwise (· < ·) := by
  have hline : s.lineUp w b = s.accepted w b := by
    unfold lineUp
    rcases h with hnone | hnone
    · rw [hnone]
    · rw [hnone]
      split
      · next hp => cases hp
      · rfl
  rw [hline]
  exact List.pairwise_map.2 (pairwise_accepted s w b)

/-- How far a unit is from a place. -/
def distanceOf (w : World) (b : Bindings) (p : Coord) (id : String) : Float :=
  b.metric.distance p (((w.unit? id).map Bag.position).getD .origin)

theorem pairwise_lineUp {order : Order} {p : Coord} (horder : s.order = some order)
    (hanchor : s.anchor? w b = some p) :
    ((s.lineUp w b).map Prod.fst).Pairwise fun i j =>
      order.Before (distanceOf w b p i) (distanceOf w b p j) ∧
        (order.Before (distanceOf w b p j) (distanceOf w b p i) → i < j) := by
  have hdistance : ∀ u ∈ s.lineUp w b,
      b.metric.distance p u.2.position = distanceOf w b p u.1 := by
    intro u hu
    rw [distanceOf, (mem_lineUp_iff.1 hu).present]
    rfl
  have hline : s.lineUp w b = order.sort
      (fun u : String × Bag => b.metric.distance p u.2.position) (s.accepted w b) := by
    rw [lineUp, horder, hanchor]
  have hsorted := Order.pairwise_sort
    (fun u : String × Bag => b.metric.distance p u.2.position)
    (fun u => b.metric.isNaN_distance p u.2.position) order (pairwise_accepted s w b)
  rw [← hline] at hsorted
  refine List.pairwise_map.2 (hsorted.imp_of_mem fun hu hv huv => ?_)
  rwa [hdistance _ hu, hdistance _ hv] at huv

/-- A selector picks exactly the units that it accepts, each once, up to its limit. They come by id,
or by distance if an order is given and there is a place to measure from; at the same distance they
come by id. So nobody who is accepted and left out is nearer, or farther, than one who is picked. -/
theorem pick_exact (s : Selector) (w : World) (b : Bindings) :
    (s.pick w b).Nodup ∧
    (∀ id ∈ s.pick w b, ∃ unit, s.Accepts w b id unit) ∧
    (s.limit = none → ∀ id unit, s.Accepts w b id unit → id ∈ s.pick w b) ∧
    (∀ e, s.limit = some e → s.pick w b =
      ({ s with limit := none }.pick w b).take (max (e.node.eval w b).asInt.toInt 0).toNat) ∧
    (s.order = none ∨ s.anchor? w b = none → (s.pick w b).Pairwise (· < ·)) ∧
    ∀ order p, s.order = some order → s.anchor? w b = some p →
      (s.pick w b).Pairwise (fun i j =>
        order.Before (distanceOf w b p i) (distanceOf w b p j) ∧
          (order.Before (distanceOf w b p j) (distanceOf w b p i) → i < j)) ∧
      ∀ left unit, s.Accepts w b left unit → left ∉ s.pick w b → ∀ id ∈ s.pick w b,
        order.Before (distanceOf w b p id) (distanceOf w b p left) := by
  obtain ⟨rest, hline⟩ := exists_lineUp_eq_append s w b
  have hmem : ∀ id unit, s.Accepts w b id unit → id ∈ s.pick w b ++ rest := fun id unit h =>
    hline ▸ List.mem_map_of_mem (mem_lineUp_iff.2 h)
  refine ⟨?nodup, fun id hid => ?_, fun hlimit id unit h => ?_, fun e hlimit => ?_,
    fun hnone => ?_, fun order p horder hanchor => ?_⟩
  case nodup =>
    have hnodup := nodup_lineUp s w b
    rw [hline] at hnodup
    exact (List.nodup_append.1 hnodup).1
  · have hid' : id ∈ (s.lineUp w b).map Prod.fst := hline ▸ List.mem_append_left rest hid
    obtain ⟨⟨id, unit⟩, hu, rfl⟩ := List.mem_map.1 hid'
    exact ⟨unit, mem_lineUp_iff.1 hu⟩
  · rw [pick_eq, hlimit]
    exact List.mem_map_of_mem (mem_lineUp_iff.2 h)
  · have hcount : (max (e.node.eval w b).asInt.toInt 0).toNat =
        (e.node.eval w b).asInt.toInt.toNat := by
      omega
    rw [hcount, pick_eq, pick_eq, hlimit]
    rfl
  · have hsorted := pairwise_lineUp_of_unordered hnone
    rw [hline] at hsorted
    exact (List.pairwise_append.1 hsorted).1
  · have hsorted := pairwise_lineUp horder hanchor
    rw [hline] at hsorted
    obtain ⟨hpicked, -, hacross⟩ := List.pairwise_append.1 hsorted
    refine ⟨hpicked, fun left unit h hleft id hid => ?_⟩
    exact (hacross id hid left ((List.mem_append.1 (hmem left unit h)).resolve_left hleft)).1

/-- An enemy is picked, and all who are picked come by distance, the farthest first. -/
theorem pick_exact_farthest :
    let s : Selector := { pool := .enemies, order := some .farthest }
    let b : Bindings := { caster := "ann", target := .none, metric := .manhattan }
    s.anchor? arena b = some ⟨0, 1⟩ ∧
    ∃ unit, s.Accepts arena b "bob" unit ∧ "bob" ∈ s.pick arena b ∧
      (s.pick arena b).Pairwise fun i j =>
        Order.farthest.Before (distanceOf arena b ⟨0, 1⟩ i) (distanceOf arena b ⟨0, 1⟩ j) ∧
          (Order.farthest.Before (distanceOf arena b ⟨0, 1⟩ j) (distanceOf arena b ⟨0, 1⟩ i) →
            i < j) := by
  intro s b
  have hanchor : s.anchor? arena b = some ⟨0, 1⟩ := by decide +kernel
  obtain ⟨unit, hunit⟩ : ∃ unit, arena.unit? "bob" = some unit :=
    Option.isSome_iff_exists.1 (by decide)
  have haccepts : ∀ unit ∈ arena.unit? "bob", s.accepts arena b ("bob", unit) = true := by
    decide +kernel
  have hbob := (accepts_iff hunit).1 (haccepts unit hunit)
  obtain ⟨-, -, hall, -, -, hordered⟩ := pick_exact s arena b
  exact ⟨hanchor, unit, hbob, hall rfl "bob" unit hbob, (hordered .farthest ⟨0, 1⟩ rfl hanchor).1⟩

end Selector

end Skirmish.Script
