import Skirmish.Action
import Skirmish.Proofs.Combat.Evasion
import Skirmish.Proofs.State.Location
import Skirmish.Proofs.Upkeep.Personal

/-!
# The victims of a line

The hits of a line are dealt one after the other, each in the world that the hits before it left.
Still no victim sees what happened to the others: an attacker without a pending counter stays as it
is, and for a given attacker an attack is a step that is personal to its defender
(`Combat.attack_personal`). So a line makes of every victim what a single attack makes of it, and
the order of the hits does not matter (`LineDamage.apply_unitwise`).
-/

namespace Skirmish

open Upkeep

namespace Combat

variable {rules : Rules} {attacker defender : String} {source : Bag}

/-- Without a pending counter no attack spends one. -/
theorem counter_mitigate (hcounter : ¬ 0.0 < source.float Stat.counterMultiplier) (rules : Rules)
    (struck : Bag) (a : Attack) : (mitigate rules source struck a).2.counter = false := by
  rw [mitigate]
  split
  · rfl
  · exact decide_eq_false hcounter

theorem land_personal (hcounter : ¬ 0.0 < source.float Stat.counterMultiplier) (rules : Rules)
    (attacker defender : String) (a : Attack) :
    ∃ step, Personal defender step ∧ ∀ w : World, w.unit? attacker = some source →
      .ofOutcome (land rules w attacker defender a).outcome = step w := by
  refine Personal.exists_of_unit (fun w hattacker hnone => ?_) fun global struck => ?_
  · rw [land, hattacker, hnone]
    rfl
  · refine ⟨_, routeDamage_personal defender rules (mitigate rules source struck a).1
      (mitigate rules source struck a).2, fun w hattacker _ hstruck => ?_⟩
    rw [land, hattacker, hstruck]
    dsimp only
    rw [counter_mitigate hcounter, if_neg Bool.false_ne_true]

theorem checkEvasion_personal (rules : Rules) (attacker defender : String) (unit : Bag)
    (evasion : Evasion) : Personal defender fun w =>
      .ofOutcome ⟨Edit.run (evasionEdits rules defender unit evasion) w,
        evasionTrace attacker defender evasion⟩ := by
  have hplace : ∀ e ∈ evasionEdits rules defender unit evasion, e.place = .unit defender := by
    intro e he
    obtain ⟨name, -, hlocation⟩ := location_of_mem_evasionEdits he
    exact Edit.place_of_location hlocation
  exact .edits hplace ((evasionTrace attacker defender evasion).map .recorded)

/-- Worlds in which an attacker is the same and evasion rolls fall alike. -/
structure SameAim (attacker : String) (v w : World) : Prop where
  unit : v.unit? attacker = w.unit? attacker
  seed : v.seed = w.seed
  turn : v.turn = w.turn

namespace SameAim

variable {v w : World} {step : World → Passage}

theorem refl (attacker : String) (w : World) : SameAim attacker w w := ⟨rfl, rfl, rfl⟩

/-- A step that is personal to somebody else does not change what the attacker sees. -/
theorem after (h : SameAim attacker v w) (hstep : Personal defender step)
    (hne : attacker ≠ defender) : SameAim attacker (step v).world w where
  unit := (hstep.unit?_of_ne v hne).trans h.unit
  seed := (hstep.sameFrame v).seed.symm.trans h.seed
  turn := (hstep.sameFrame v).turn.symm.trans h.turn

theorem evasionSeed_eq (h : SameAim attacker v w) (id : String) (unit : Bag) :
    evasionSeed v id unit = evasionSeed w id unit := by
  rw [evasionSeed, h.seed, h.turn]
  rfl

end SameAim

/-- For an attacker without a pending counter, an attack on another unit is personal to that
unit. -/
theorem attack_personal {w : World} (hattacker : w.unit? attacker = some source)
    (hcounter : ¬ 0.0 < source.float Stat.counterMultiplier) (rules : Rules)
    (hne : attacker ≠ defender) (a : Attack) :
    ∃ step, Personal defender step ∧ ∀ v, SameAim attacker v w →
      .ofOutcome (attack rules v attacker defender a).outcome = step v := by
  refine Personal.exists_of_unit (fun v _ hnone => ?_) fun global unit => ?_
  · rw [outcome_attack_of_no_defender hnone]
    rfl
  by_cases htrue : a.kind = .true
  · refine ⟨_, damage_personal defender rules a.power, fun v _ _ hunit => ?_⟩
    rw [outcome_attack hunit, if_pos htrue]
  by_cases haway : unit.isUntargetable = true
  · refine ⟨_, .nothing, fun v _ _ hunit => ?_⟩
    rw [outcome_attack hunit, if_neg htrue, if_pos (.inl haway)]
    rfl
  have hpresent : ∀ v, SameAim attacker v w →
      ¬ (unit.isUntargetable = true ∨ (!v.hasUnit attacker) = true) := by
    intro v hv
    rw [World.hasUnit, NameMap.contains, ← World.unit?, hv.unit, hattacker]
    exact not_or.2 ⟨haway, Bool.false_ne_true⟩
  have hchecked := checkEvasion_personal rules attacker defender unit
    (evasionOf rules unit (evasionSeed w defender unit))
  by_cases hevaded : (evasionOf rules unit (evasionSeed w defender unit)).evaded = true
  · refine ⟨_, hchecked, fun v hv _ hunit => ?_⟩
    rw [outcome_attack hunit, if_neg htrue, if_neg (hpresent v hv), hv.evasionSeed_eq,
      if_pos hevaded]
  · obtain ⟨landed, hlanded, hland⟩ := land_personal hcounter rules attacker defender a
    refine ⟨_, hchecked.andThen hlanded, fun v hv _ hunit => ?_⟩
    have hstays := (hv.after hchecked hne).unit.trans hattacker
    rw [outcome_attack hunit, if_neg htrue, if_neg (hpresent v hv), hv.evasionSeed_eq,
      if_neg hevaded, ofOutcome_andThen]
    exact congrArg (fun p => Passage.mk p.world (_ ++ p.entries)) (hland _ hstays)

end Combat

namespace LineDamage

variable {rules : Rules} {l : LineDamage} {w : World} {id : String}

/-- One hit of a line. -/
def hit (l : LineDamage) (rules : Rules) (victim : String) (w : World) : Outcome :=
  (Combat.attack rules w l.attacker victim { kind := l.kind, power := l.power }).outcome

/-- Whether a line hits a unit: it covers the unit, which is not the attacker and not of its team,
if it has one. -/
def Hits (l : LineDamage) (w : World) (id : String) : Prop :=
  ∃ attacker target direction unit, w.unit? l.attacker = some attacker ∧
    w.unit? l.target = some target ∧
    Direction.bearing? attacker.position target.position = some direction ∧
    w.unit? id = some unit ∧ id ≠ l.attacker ∧
    (attacker.team = "" ∨ unit.team ≠ attacker.team) ∧
    (Shape.line direction l.length l.radius).covers attacker.position unit.position

theorem mem_victims_iff : id ∈ l.victims w ↔ l.Hits w id := by
  unfold victims Hits
  cases w.unit? l.attacker with
  | none => simp
  | some attacker =>
    cases w.unit? l.target with
    | none => simp
    | some target =>
      simp only [Option.some.injEq, exists_and_left, exists_eq_left']
      cases Direction.bearing? attacker.position target.position with
      | none => simp
      | some direction =>
        have hname : ∀ unit, w.unit? id = some unit → id ∈ w.units.names := fun unit hunit =>
          NameMap.mem_names_iff.2 (Option.isSome_of_eq_some hunit)
        simp only [NameMap.map_fst_filter_entries, List.mem_filter, Option.any_eq_true,
          Option.some.injEq, exists_eq_left', Bool.and_eq_true, Bool.or_eq_true, bne_iff_ne,
          beq_iff_eq, and_assoc]
        constructor
        · rintro ⟨-, unit, hunit, hhit⟩
          exact ⟨unit, hunit, hhit⟩
        · rintro ⟨unit, hunit, hhit⟩
          exact ⟨hname unit hunit, unit, hunit, hhit⟩

theorem attacker_notMem_victims : l.attacker ∉ l.victims w := by
  rw [mem_victims_iff]
  rintro ⟨_, _, _, _, _, _, _, _, hother, _⟩
  exact hother rfl

theorem nodup_victims (l : LineDamage) (w : World) : (l.victims w).Nodup := by
  unfold victims
  split
  · dsimp only
    split
    · exact (List.filter_sublist.map Prod.fst).nodup w.units.nodup_names
    · exact List.nodup_nil
  · exact List.nodup_nil

/-- Hits on others than the attacker come to personal steps. -/
theorem fold_hit_eq {step : String → World → Passage} (hstep : ∀ id, Personal id (step id))
    (hhit : ∀ id, l.attacker ≠ id → ∀ v, Combat.SameAim l.attacker v w →
      .ofOutcome (l.hit rules id v) = step id v)
    {ids : List String} (hids : l.attacker ∉ ids) {v : World}
    (hv : Combat.SameAim l.attacker v w) :
    (Outcome.fold (l.hit rules) ids v).world = (Passage.fold step ids v).world := by
  induction ids generalizing v with
  | nil => rfl
  | cons id ids ih =>
    obtain ⟨hne, hrest⟩ := not_or.1 (mt List.mem_cons.2 hids)
    have hfirst : (l.hit rules id v).world = (step id v).world :=
      congrArg Passage.world (hhit id hne v hv)
    calc (Outcome.fold (l.hit rules) (id :: ids) v).world
        = (Outcome.fold (l.hit rules) ids (l.hit rules id v).world).world := rfl
      _ = (Outcome.fold (l.hit rules) ids (step id v).world).world := by rw [hfirst]
      _ = (Passage.fold step ids (step id v).world).world := ih hrest (hv.after (hstep id) hne)
      _ = (Passage.fold step (id :: ids) v).world := rfl

/-- The hits on the victims of a line come to steps that are personal to them. -/
theorem exists_personal
    (hcounter : ∀ attacker ∈ w.unit? l.attacker, ¬ 0.0 < attacker.float Stat.counterMultiplier)
    (rules : Rules) : ∃ step : String → World → Passage, (∀ id, Personal id (step id)) ∧
      ∀ ids ⊆ l.victims w,
        (Outcome.fold (l.hit rules) ids w).world = (Passage.fold step ids w).world := by
  cases hattacker : w.unit? l.attacker with
  | none =>
    have hnobody : l.victims w = [] := by
      rw [victims, hattacker]
    refine ⟨fun _ w => ⟨w, []⟩, fun _ => .nothing, fun ids hids => ?_⟩
    rw [hnobody] at hids
    rw [List.eq_nil_of_subset_nil hids]
    rfl
  | some source =>
    have hsteps : ∀ id, ∃ step, Personal id step ∧ (l.attacker ≠ id → ∀ v,
        Combat.SameAim l.attacker v w → .ofOutcome (l.hit rules id v) = step v) := by
      intro id
      by_cases hself : l.attacker = id
      · exact ⟨_, .nothing, fun hne => absurd hself hne⟩
      · obtain ⟨step, hstep, hhit⟩ := Combat.attack_personal hattacker (hcounter source hattacker)
          rules hself { kind := l.kind, power := l.power }
        exact ⟨step, hstep, fun _ => hhit⟩
    choose step hstep hhit using hsteps
    refine ⟨step, hstep, fun ids hids => ?_⟩
    exact fold_hit_eq hstep hhit (mt (@hids l.attacker) attacker_notMem_victims) (.refl _ w)

/-- What is not a unit stays as it is. -/
theorem with_units_fold {step : String → World → Passage} (hstep : ∀ id, Personal id (step id))
    (ids : List String) (w : World) :
    { (Passage.fold step ids w).world with units := w.units } = w := by
  have hframe := sameFrame_fold hstep ids w
  have hplace : ∀ p : Place, (∀ id, p ≠ .unit id) →
      (Passage.fold step ids w).world.bag? p = w.bag? p :=
    fun p hp => bag?_fold hstep ids w fun id _ => hp id
  have hsame : { (Passage.fold step ids w).world with units := w.units }.SameFrame w :=
    { turn := hframe.turn.symm, seed := hframe.seed.symm, width := hframe.width.symm
      height := hframe.height.symm, ids := rfl, rolls := hframe.rolls.symm
      beyond := hframe.symm.beyond }
  refine World.eq_of_bag? hsame fun p => ?_
  cases p with
  | unit id => rfl
  | tile p => exact hplace (.tile p) (by simp)
  | global => exact hplace .global (by simp)

/-- Every victim of a line ends as a single attack on it leaves it, and nothing else changes. The
order of the hits does not matter. -/
theorem apply_unitwise (rules : Rules) (w : World) (l : LineDamage)
    (hcounter : ∀ attacker ∈ w.unit? l.attacker, ¬ 0.0 < attacker.float Stat.counterMultiplier) :
    let after := (l.apply rules w).world
    (∀ id, id ∈ l.victims w ↔ l.Hits w id) ∧
    (∀ id ∈ l.victims w, after.unit? id = (l.hit rules id w).world.unit? id) ∧
    (∀ id, id ∉ l.victims w → after.unit? id = w.unit? id) ∧
    { after with units := w.units } = w ∧
    ∀ order : List String, order.Perm (l.victims w) →
      (Outcome.fold (l.hit rules) order w).world = after := by
  obtain ⟨step, hstep, hfold⟩ := exists_personal hcounter rules
  have hafter : (l.apply rules w).world = (Passage.fold step (l.victims w) w).world :=
    hfold _ (List.Subset.refl _)
  have hnodup := nodup_victims l w
  intro after
  refine ⟨fun id => mem_victims_iff, fun id hid => ?_, fun id hid => ?_, ?_, fun order hperm => ?_⟩
  · have hsingle := hfold [id] (List.cons_subset.2 ⟨hid, List.nil_subset _⟩)
    show (l.apply rules w).world.unit? id = _
    rw [hafter, unit?_fold hstep hnodup hid]
    exact (congrArg (·.unit? id) hsingle).symm
  · show (l.apply rules w).world.unit? id = _
    rw [hafter]
    refine bag?_fold hstep _ w (p := .unit id) fun victim hvictim hplace => hid ?_
    exact Place.unit.inj hplace ▸ hvictim
  · show { (l.apply rules w).world with units := w.units } = w
    rw [hafter]
    exact with_units_fold hstep _ w
  · rw [hfold order hperm.subset]
    exact (world_fold_perm hstep (hperm.nodup_iff.2 hnodup) hperm w).trans hafter.symm

/-- Of the two victims one evades and the other is struck. -/
theorem apply_unitwise_sweep :
    let sweep : LineDamage :=
      { attacker := "ann", target := "bob", kind := .physical, power := 4, length := 3 }
    let after := (sweep.apply {} arena).world
    (∀ attacker ∈ arena.unit? sweep.attacker,
      ¬ 0.0 < attacker.float Stat.counterMultiplier) ∧
    sweep.victims arena = ["bob", "cid"] ∧
    (∀ id, id ∈ sweep.victims arena ↔ sweep.Hits arena id) ∧
    (∀ id ∈ sweep.victims arena, after.unit? id = (sweep.hit {} id arena).world.unit? id) ∧
    (∀ id, id ∉ sweep.victims arena → after.unit? id = arena.unit? id) ∧
    { after with units := arena.units } = arena ∧
    ∀ order : List String, order.Perm (sweep.victims arena) →
      (Outcome.fold (sweep.hit {}) order arena).world = after := by
  intro sweep after
  have hcounter : ∀ attacker ∈ arena.unit? sweep.attacker,
      ¬ 0.0 < attacker.float Stat.counterMultiplier := by
    decide +kernel
  exact ⟨hcounter, by decide +kernel, apply_unitwise {} arena sweep hcounter⟩

end LineDamage

end Skirmish
