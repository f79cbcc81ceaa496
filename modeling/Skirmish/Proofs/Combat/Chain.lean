import Skirmish.Combat.Attack
import Skirmish.Proofs.Combat.Evasion
import Skirmish.Proofs.Combat.Hit

/-!
# Combat as a chain of blows

Whatever hits, heals and attacks lead to, it comes about by few kinds of steps: health is healed or
struck, a threshold triggers (`Combat.Blow`), and attacks besides count evasions and counters. What
goes through chains of steps and holds of these holds of all combat (`Outcome.Chains.attack`).
-/

namespace Skirmish

namespace Combat

/-- A single blow: a heal, a hit before what follows it, or a threshold that triggers. -/
inductive Blow (rules : Rules) (w : World) : Outcome → Prop where
  | heal {target : String} {unit : Bag} {amount after : Int64} (hw : w.unit? target = some unit)
      (flags : HitFlags) (h : healedTo? unit amount = some after) :
      Blow rules w ⟨w.updateUnit target (·.set Stat.hp (.int after)),
        [.healed target (after - unit.hp) flags]⟩
  | hit {target : String} {unit : Bag} {amount : Int64} {flags : HitFlags}
      (hw : w.unit? target = some unit) (hamount : ¬amount ≤ 0)
      (hflags : flags.undying = false ∧ flags.lethal = false) :
      Blow rules w ⟨w.updateUnit target (impact rules unit amount).onBag,
        [(impact rules unit amount).event target flags]⟩
  | trigger {target : String} {unit : Bag} {before after : Int64} {skill : String}
      (hw : w.unit? target = some unit) (h : triggered? unit before after = some skill) :
      Blow rules w ⟨w.updateUnit target (·.tag (Stat.thresholdFired skill)),
        [.thresholdTriggered target skill]⟩

/-- Counting: edits of the counters, under which nothing but evasions is recorded. -/
structure Counting (es : List Edit) (trace : List TraceEvent) : Prop where
  edits : ∀ e ∈ es, ∃ id, ∃ name ∈ counters, e.location = .var (.unit id) name
  trace : ∀ e ∈ trace, ∃ attacker defender, e = .evaded attacker defender

theorem counting_evasion (rules : Rules) (attacker defender : String) (unit : Bag)
    (evasion : Evasion) : Counting (evasionEdits rules defender unit evasion)
      (evasionTrace attacker defender evasion) := by
  refine ⟨fun e he => ⟨defender, location_of_mem_evasionEdits he⟩, fun e he => ?_⟩
  rw [evasionTrace] at he
  split at he
  · exact ⟨attacker, defender, List.mem_singleton.1 he⟩
  · exact absurd he List.not_mem_nil

theorem counting_spend (attacker : String) :
    Counting [.unset (.unit attacker) Stat.counterMultiplier] [] := by
  refine ⟨fun e he => ?_, fun e he => absurd he List.not_mem_nil⟩
  rw [List.mem_singleton.1 he]
  exact ⟨attacker, Stat.counterMultiplier, by simp [counters], rfl⟩

/-- Whether a hit is lethal or the undying are held is not for mitigation to say. -/
theorem flags_mitigate (rules : Rules) (attacker defender : Bag) (a : Attack) :
    (mitigate rules attacker defender a).2.undying = false ∧
      (mitigate rules attacker defender a).2.lethal = false := by
  rw [mitigate]
  split <;> exact ⟨rfl, rfl⟩

end Combat

/-- What is said of a world and an outcome from it holds of chains if it holds of their links. -/
structure Outcome.Chains (holds : World → Outcome → Prop) : Prop where
  stop (w : World) : holds w ⟨w, []⟩
  andThen {w : World} {o : Outcome} (next : World → Outcome) (ho : holds w o)
    (hnext : holds o.world (next o.world)) : holds w (o.andThen next)

theorem Outcome.silent_andThen (w : World) (next : World → Outcome) :
    (Outcome.mk w []).andThen next = next w := rfl

namespace Outcome.Chains

variable {holds : World → Outcome → Prop} (h : Chains holds)

include h

theorem fold {α : Type} {step : α → World → Outcome} {l : List α}
    (hstep : ∀ a ∈ l, ∀ w, holds w (step a w)) (w : World) : holds w (Outcome.fold step l w) := by
  induction l generalizing w with
  | nil => exact h.stop w
  | cons a l ih =>
    have hrest := ih (fun b hb => hstep b (List.mem_cons_of_mem a hb)) (step a w).world
    exact h.andThen (Outcome.fold step l) (hstep a List.mem_cons_self w) hrest

/-! ## Healing and damage -/

variable {rules : Rules} (hblow : ∀ {w o}, Combat.Blow rules w o → holds w o)

include hblow

theorem healPlain (w : World) (target : String) (amount : Int64) (flags : HitFlags) :
    holds w (Combat.healPlain w target amount flags).outcome := by
  cases hw : w.unit? target with
  | none =>
    rw [Combat.outcome_healPlain_of_none hw]
    exact h.stop w
  | some unit =>
    rw [Combat.outcome_healPlain hw]
    cases hhealed : Combat.healedTo? unit amount with
    | none => exact h.stop w
    | some after => exact hblow (.heal hw flags hhealed)

theorem healAfterHit (w : World) (target : String) (after : Int64) :
    holds w (Combat.healAfterHit w target after) := by
  rw [Combat.healAfterHit]
  split
  · exact h.stop w
  · dsimp only
    split
    · exact h.healPlain hblow w target _ {}
    · exact h.stop w

theorem fireThreshold (w : World) (target : String) (before after : Int64) :
    holds w (Combat.fireThreshold w target before after).1 := by
  rw [Combat.fireThreshold]
  split
  · exact h.stop w
  · next skill hskill =>
    obtain ⟨unit, hunit, htriggered⟩ := Option.bind_eq_some_iff.1 hskill
    exact hblow (.trigger hunit htriggered)

theorem damagePlain (w : World) (target : String) (amount : Int64) {flags : HitFlags}
    (hflags : flags.undying = false ∧ flags.lethal = false) :
    holds w (Combat.damagePlain rules w target amount flags).outcome := by
  cases hw : w.unit? target with
  | none =>
    rw [Combat.outcome_damagePlain_of_none hw]
    exact h.stop w
  | some unit =>
    by_cases hamount : amount ≤ 0
    · rw [Combat.outcome_damagePlain_of_nonpos hamount]
      exact h.stop w
    · have hhit := hblow (.hit hw hamount hflags)
      rw [← Combat.Impact.run_edits] at hhit
      rw [Combat.outcome_damagePlain hw hamount]
      refine h.andThen (fun w => (Combat.fireThreshold w target _ _).1) ?_
        (h.fireThreshold hblow _ target _ _)
      exact h.andThen (fun w => Combat.healAfterHit w target _) hhit
        (h.healAfterHit hblow _ target _)

theorem routeDamage (w : World) (target : String) (amount : Int64) {flags : HitFlags}
    (hflags : flags.undying = false ∧ flags.lethal = false) :
    holds w (Combat.routeDamage rules w target amount flags).outcome := by
  rw [Combat.routeDamage]
  split
  · exact h.healPlain hblow w target amount _
  · exact h.damagePlain hblow w target amount hflags

theorem damage (w : World) (target : String) (amount : Int64) :
    holds w (Combat.damage rules w target amount).outcome :=
  h.routeDamage hblow w target amount ⟨rfl, rfl⟩

theorem heal (w : World) (target : String) (amount : Int64) :
    holds w (Combat.heal rules w target amount).outcome := by
  rw [Combat.heal]
  split
  · exact h.damagePlain hblow w target amount ⟨rfl, rfl⟩
  · exact h.healPlain hblow w target amount {}

/-! ## Attacks -/

variable (hcount : ∀ {es trace}, Combat.Counting es trace →
  ∀ w : World, holds w ⟨Edit.run es w, trace⟩)

include hcount

theorem land (w : World) (attacker defender : String) (a : Combat.Attack) :
    holds w (Combat.land rules w attacker defender a).outcome := by
  rw [Combat.land]
  split
  · next source struck _ _ =>
    have hflags := Combat.flags_mitigate rules source struck a
    let damage := fun w => (Combat.routeDamage rules w defender
      (Combat.mitigate rules source struck a).1 (Combat.mitigate rules source struck a).2).outcome
    have hdamage : ∀ w, holds w (damage w) := fun w => h.routeDamage hblow w defender _ hflags
    dsimp only
    split
    · have hspent := hcount (Combat.counting_spend attacker) w
      have hboth := h.andThen damage hspent (hdamage _)
      rw [silent_andThen] at hboth
      exact hboth
    · exact hdamage w
  · exact h.stop w

theorem attack (w : World) (attacker defender : String) (a : Combat.Attack) :
    holds w (Combat.attack rules w attacker defender a).outcome := by
  cases hw : w.unit? defender with
  | none =>
    rw [Combat.outcome_attack_of_no_defender hw]
    exact h.stop w
  | some struck =>
    rw [Combat.outcome_attack hw]
    split
    · exact h.damage hblow w defender a.power
    split
    · exact h.stop w
    have hcheck := hcount (Combat.counting_evasion rules attacker defender struck
      (Combat.evasionOf rules struck (Combat.evasionSeed w defender struck))) w
    split
    · exact hcheck
    · exact h.andThen _ hcheck (h.land hblow hcount _ attacker defender a)

end Outcome.Chains

end Skirmish
