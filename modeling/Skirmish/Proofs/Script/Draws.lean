import Skirmish.Proofs.Footprint.Action
import Skirmish.Proofs.Number.Order
import Skirmish.Proofs.Script.Deeds

/-!
# The rolls that a script draws

A roll is drawn for a chance that is open, above none and below a hundred percent, and for nothing
else. The rolls of a run are numbered on from the counter of the world that the script meets, with
no number left out or used twice, wherever the chances stand: in conditions, in loops, in loops over
units, in branches (`draws_step`).
-/

namespace Skirmish.Script

/-- Whether a chance may come out either way. -/
def Decision.isOpen (d : Decision) : Bool := 0.0 < d.percent ∧ d.percent < 100.0

/-- What a decision has to be: what the roll of its seed says, or whether the chance is sure. -/
def Decision.verdict (d : Decision) : Bool :=
  match d.seed? with
  | some seed => Float.ofNat (Roll.percent seed).toNat ≤ d.percent
  | none => 100.0 ≤ d.percent

/-- The seed of the roll that a deed draws. -/
def Deed.seed? : Deed → Option UInt64
  | act _ => none
  | chance d => d.seed?

/-- Whether a deed decides an open chance. -/
def Deed.isOpen : Deed → Bool
  | act _ => false
  | chance d => d.isOpen

/-! ## One chance -/

theorem isOpen_taken (w : World) (v : Value) : (Decision.taken w v.asFloat).isOpen = true ↔
    ¬(v.asFloat ≤ 0.0 ∨ 100.0 ≤ v.asFloat) := by
  have hzero : (0.0 : Float).isNaN = false := rfl
  have hhundred : (100.0 : Float).isNaN = false := rfl
  rw [Decision.isOpen, decide_eq_true_eq, not_or,
    Number.not_le_iff_lt v.isNaN_asFloat hzero, Number.not_le_iff_lt hhundred v.isNaN_asFloat]
  rfl

theorem seed?_of_isOpen {w : World} {v : Value} (h : (Decision.taken w v.asFloat).isOpen = true) :
    (Decision.taken w v.asFloat).seed? = some (Roll.seed w.seed w.turn 0 w.rolls .chance) :=
  if_neg ((isOpen_taken w v).1 h)

theorem seed?_of_not_isOpen {w : World} {v : Value}
    (h : ¬(Decision.taken w v.asFloat).isOpen = true) :
    (Decision.taken w v.asFloat).seed? = none :=
  if_pos (Decidable.not_not.1 fun hopen => h ((isOpen_taken w v).2 hopen))

theorem isSome_seed?_taken (w : World) (v : Value) :
    (Decision.taken w v.asFloat).seed?.isSome = (Decision.taken w v.asFloat).isOpen := by
  cases h : (Decision.taken w v.asFloat).isOpen with
  | true => rw [seed?_of_isOpen h, Option.isSome_some]
  | false => rw [seed?_of_not_isOpen (Bool.eq_false_iff.1 h), Option.isSome_none]

theorem hit_taken (w : World) (percent : Float) :
    (Decision.taken w percent).hit = (Decision.taken w percent).verdict := by
  unfold Decision.verdict Decision.taken rollChance
  dsimp only
  by_cases hnone : percent ≤ 0.0
  · simp [hnone, Number.not_hundred_le hnone]
  · by_cases hsure : 100.0 ≤ percent
    · simp [hnone, hsure]
    · simp [hnone, hsure]

theorem toNat_next {n : UInt64} (h : n.toNat + 1 < 2 ^ 64) :
    Saturating.next n = n + 1 ∧ (Saturating.next n).toNat = n.toNat + 1 := by
  have hne : n ≠ UInt64.ofNat (UInt64.size - 1) := by
    rintro rfl
    revert h
    decide
  have hsum : (n + 1).toNat = n.toNat + 1 := by
    rw [UInt64.toNat_add]
    exact Nat.mod_eq_of_lt h
  rw [Saturating.next, if_neg hne]
  exact ⟨rfl, hsum⟩

/-! ## All deeds -/

/-- The seeds of so many rolls, numbered on from a counter. -/
def nextSeeds (w : World) (n : Nat) : List UInt64 :=
  (List.range n).map fun k => Roll.seed w.seed w.turn 0 (w.rolls + .ofNat k) .chance

theorem nextSeeds_succ (w : World) (n : Nat) : nextSeeds w (n + 1) =
    Roll.seed w.seed w.turn 0 w.rolls .chance :: nextSeeds { w with rolls := w.rolls + 1 } n := by
  have hshift : ∀ k, w.rolls + 1 + UInt64.ofNat k = w.rolls + UInt64.ofNat (k + 1) := by
    intro k
    rw [UInt64.ofNat_add, UInt64.add_assoc, UInt64.add_comm (UInt64.ofNat k)]
    rfl
  simp only [nextSeeds, List.range_succ_eq_map, List.map_cons, List.map_map, Function.comp_def,
    hshift]
  exact congrArg (· :: _) (congrArg (Roll.seed w.seed w.turn 0 · .chance) (UInt64.add_zero _))

namespace Leads

variable {rules : Rules} {w : World} {ds : List Deed} {o : Outcome}

theorem draws (h : Leads rules w ds o)
    (room : w.rolls.toNat + ds.countP Deed.isOpen < 2 ^ 64) :
    ds.filterMap Deed.seed? = nextSeeds w (ds.countP Deed.isOpen) ∧
      o.world.rolls.toNat = w.rolls.toNat + ds.countP Deed.isOpen := by
  induction h with
  | nil w => exact ⟨rfl, rfl⟩
  | @act w ds o a rest ih =>
    have hframe := Action.sameFrame_apply rules a w
    have hseeds : nextSeeds (a.apply rules w).world = nextSeeds w := by
      unfold nextSeeds
      rw [← hframe.seed, ← hframe.turn, ← hframe.rolls]
    rw [← hframe.rolls, hseeds] at ih
    exact ih room
  | @chance w ds o v rest ih =>
    have hcount := Decision.count_taken w v.asFloat
    rw [← hcount, Decision.count, isSome_seed?_taken] at ih
    cases hopen : (Decision.taken w v.asFloat).isOpen with
    | true =>
      have hseed : Deed.seed? (.chance (.taken w v.asFloat)) = some _ := seed?_of_isOpen hopen
      have hlength : (Deed.chance (.taken w v.asFloat) :: ds).countP Deed.isOpen =
          ds.countP Deed.isOpen + 1 := List.countP_cons_of_pos hopen
      rw [hlength] at room ⊢
      obtain ⟨hnext, hsucc⟩ := toNat_next (n := w.rolls) (by omega)
      rw [hopen, if_pos rfl] at ih
      obtain ⟨hdrawn, hrolls⟩ := ih (by simp only [hsucc]; omega)
      refine ⟨?_, ?_⟩
      · rw [List.filterMap_cons_some hseed, hdrawn, nextSeeds_succ, hnext]
      · rw [hrolls, hsucc]
        omega
    | false =>
      have hseed : Deed.seed? (.chance (.taken w v.asFloat)) = none :=
        seed?_of_not_isOpen (Bool.eq_false_iff.1 hopen)
      have hlength : (Deed.chance (.taken w v.asFloat) :: ds).countP Deed.isOpen =
          ds.countP Deed.isOpen := List.countP_cons_of_neg (Bool.eq_false_iff.1 hopen)
      rw [hlength] at room ⊢
      rw [hopen, if_neg Bool.false_ne_true] at ih
      rw [List.filterMap_cons_none hseed]
      exact ih room

/-- The counter at every point of a run shows the open chances decided so far. -/
theorem rolls_of_prefix (h : Leads rules w ds o)
    (room : w.rolls.toNat + ds.countP Deed.isOpen < 2 ^ 64) {before : List Deed}
    (hbefore : before <+: ds) : (Outcome.fold (Deed.perform rules) before w).world.rolls.toNat =
      w.rolls.toNat + before.countP Deed.isOpen := by
  have hfewer : before.countP Deed.isOpen ≤ ds.countP Deed.isOpen := hbefore.sublist.countP_le
  obtain ⟨after, rfl⟩ := hbefore
  obtain ⟨p, hp⟩ := h.of_append
  rw [hp.fold_eq]
  exact (hp.draws (by omega)).2

theorem of_chance_mem (h : Leads rules w ds o) {d : Decision} (hd : .chance d ∈ ds) :
    d.seed?.isSome = d.isOpen ∧ d.hit = d.verdict := by
  induction h with
  | nil w => exact absurd hd List.not_mem_nil
  | act a rest ih =>
    rcases List.mem_cons.1 hd with heq | hd
    · cases heq
    · exact ih hd
  | chance v rest ih =>
    rcases List.mem_cons.1 hd with heq | hd
    · cases heq
      exact ⟨isSome_seed?_taken _ v, hit_taken _ _⟩
    · exact ih hd

end Leads

/-- The rolls that a script draws are accounted for. Its deeds come to what its step comes to; the
seeds drawn are those of the next rolls of the world, one for each open chance in the order of the
decisions; the counter shows at every point how many open chances have been decided; and a chance
draws a roll just if it is open, and comes out as its roll says. -/
theorem draws_step (s : Script) (rules : Rules) (b : Bindings) (w : World)
    (room : w.rolls.toNat + (stmtsDeeds rules s.stmts b w).countP Deed.isOpen < 2 ^ 64) :
    let ds := stmtsDeeds rules s.stmts b w
    let n := ds.countP Deed.isOpen
    Outcome.fold (Deed.perform rules) ds w = s.step rules b w ∧
    ds.filterMap Deed.seed? =
      (List.range n).map (fun k => Roll.seed w.seed w.turn 0 (w.rolls + .ofNat k) .chance) ∧
    (s.step rules b w).world.rolls.toNat = w.rolls.toNat + n ∧
    (∀ before, before <+: ds →
      (Outcome.fold (Deed.perform rules) before w).world.rolls.toNat =
        w.rolls.toNat + before.countP Deed.isOpen) ∧
    ∀ d, .chance d ∈ ds → d.seed?.isSome = d.isOpen ∧ d.hit = d.verdict := by
  intro ds n
  have hleads := leads_step s rules b w
  obtain ⟨hseeds, hrolls⟩ := hleads.draws room
  exact ⟨hleads.fold_eq, hseeds, hrolls, fun before hbefore => hleads.rolls_of_prefix room hbefore,
    fun d hd => hleads.of_chance_mem hd⟩

/-- Chances in a condition, where an `or` passes one over, in a loop over units and in a loop. -/
def gambles : Script where
  metas := []
  stmts :=
    let chance (n : Int64) : Cond := .chance ⟨.lit (.int n), default⟩
    let block (s : Stmt) : Block := .mk true default [⟨s, default⟩]
    let pray (who : Ref) : Stmt := .heal (.lit (.int 1)) who
    [ ⟨.branch (.or (chance 100) (chance 30)) (block (pray .caster)) none, default⟩,
      ⟨.forEach ⟨{ pool := .units }, default⟩
        (block (.chance (.lit (.int 40)) (block (pray .it)) none)), default⟩,
      ⟨.repeat (.lit (.int 2))
        (block (.branch (.and (.not (chance 0)) (chance 70)) (block (pray .caster)) none)),
        default⟩ ]

theorem draws_step_gambles :
    let b : Bindings := { caster := "ann", target := .none, metric := .manhattan }
    let ds := stmtsDeeds {} gambles.stmts b arena
    ds.countP Deed.isOpen = 5 ∧
    ds.filterMap Deed.seed? = (List.range 5).map (fun k => Roll.seed 7 0 0 (.ofNat k) .chance) ∧
    (gambles.step {} b arena).world.rolls = 5 := by
  intro b ds
  have hcount : ds.countP Deed.isOpen = 5 := by decide +kernel
  have hrolls : arena.rolls = 0 := rfl
  have room : arena.rolls.toNat + ds.countP Deed.isOpen < 2 ^ 64 := by
    rw [hcount, hrolls]
    decide
  obtain ⟨-, hseeds, hlast, -⟩ := draws_step gambles {} b arena room
  refine ⟨hcount, hseeds.trans ?_, UInt64.toNat_inj.1 (hlast.trans ?_)⟩
  · change (List.range (ds.countP Deed.isOpen)).map _ = _
    rw [hcount, hrolls]
    exact List.map_congr_left fun k _ => congrArg (Roll.seed 7 0 0 · .chance) (UInt64.zero_add _)
  · change arena.rolls.toNat + ds.countP Deed.isOpen = _
    rw [hcount]
    rfl

end Skirmish.Script
