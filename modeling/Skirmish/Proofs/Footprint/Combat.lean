import Skirmish.Proofs.Combat.Reads
import Skirmish.Proofs.Footprint.Confined

/-!
# The footprints of combat

Healing and damage are confined to the health footprint of their target, and an attack to the
attack footprint of the two units (`attack_confined`): every branch of evasion, mitigation, shield,
undying floor, reversal, heal and threshold reads and writes inside them.
-/

namespace Skirmish.Combat

variable {v w : World}

/-! ## What a footprint lets a step read -/

/-- The key of the triggered thresholds stands for the mark of every skill. -/
theorem covers_thresholdFired (id skill : String) :
    (Key.tag (.unit id) Stat.thresholdFiredFamily).covers
      (.tag (.unit id) (Stat.thresholdFired skill)) = true := by
  have hfamily : Key.isFamily Stat.thresholdFiredFamily = true := by decide
  have hprefix : Stat.thresholdFiredFamily.toList <+: (Stat.thresholdFired skill).toList :=
    ⟨skill.toList, (String.toList_append ..).symm⟩
  simp only [Key.covers, Key.standsFor, hfamily, List.isPrefixOf_iff_prefix.2 hprefix]
  simp

theorem sameHealth_of_agreeOn {keys : List Key} {id : String} (h : v.AgreeOn keys w)
    (hkeys : (Subject.unit id).healthReads ⊆ keys) {b c : Bag} (hv : v.unit? id = some b)
    (hw : w.unit? id = some c) : SameHealth b c := by
  refine ⟨fun name hname => ?_, fun skill => ?_⟩
  · have hmem : Key.var (.unit id) name ∈ (Subject.unit id).healthReads :=
      List.mem_append_left _ (List.mem_map_of_mem hname)
    exact h.get? (p := .unit id) hv hw (covered_of_mem (hkeys hmem))
  · have hmem : Key.tag (.unit id) Stat.thresholdFiredFamily ∈ (Subject.unit id).healthReads := by
      simp [Subject.healthReads, Subject.tag]
    exact h.hasTag (p := .unit id) hv hw ⟨_, hkeys hmem, covers_thresholdFired id skill⟩

theorem isReversed_of_agreeOn {keys : List Key} {counter : String} (h : v.AgreeOn keys w)
    (hkey : Key.var .global counter ∈ keys) : isReversed v counter = isReversed w counter :=
  Bag.isActive_congr (h.get? (p := .global) rfl rfl (covered_of_mem hkey))

/-! ## Health -/

section Health

variable {target : String}

theorem healPlain_confined (amount : Int64) (flags : HitFlags) :
    Confined (Subject.unit target).healthReads (Subject.unit target).healthWrites
      fun w => (healPlain w target amount flags).outcome := by
  refine .of_unit target (fun w hw => ?_) fun v w b c h hv hw => ?_
  · exact outcome_healPlain_of_none hw amount flags
  · have hsame := sameHealth_of_agreeOn h (List.Subset.refl _) hv hw
    rw [outcome_healPlain hv, outcome_healPlain hw, healedTo?_congr hsame, hp_congr hsame]
    cases healedTo? c amount with
    | none => exact ⟨_, .nothing, rfl, rfl⟩
    | some after =>
      have hcovered : Covered (Subject.unit target).healthWrites (.var (.unit target) Stat.hp) :=
        covered_of_mem (by simp [Key.ofLocation, Subject.healthWrites, Subject.var])
      exact ⟨_, .edit (e := .set (.unit target) Stat.hp (.int after)) hcovered _, rfl, rfl⟩

theorem healAfterHit_confined (after : Int64) :
    Confined (Subject.unit target).healthReads (Subject.unit target).healthWrites
      fun w => healAfterHit w target after := by
  refine .of_unit target (fun w hw => ?_) fun v w b c h hv hw => ?_
  · rw [healAfterHit, hw]
  · have hsame := sameHealth_of_agreeOn h (List.Subset.refl _) hv hw
    have hamount := Bag.int_congr (hsame.vars Stat.onDamageHeal (by simp))
    have hturns := Bag.isActive_congr (hsame.vars Stat.onDamageHealTurns (by simp))
    simp only [healAfterHit, hv, hw, hamount, hturns]
    by_cases hheals : 0 < after ∧ c.isActive Stat.onDamageHealTurns = true ∧
        0 < c.int Stat.onDamageHeal
    · simp only [if_pos hheals]
      exact ⟨_, healPlain_confined _ {}, rfl, rfl⟩
    · simp only [if_neg hheals]
      exact ⟨_, .nothing, rfl, rfl⟩

theorem fireThreshold_confined (before after : Int64) :
    Confined (Subject.unit target).healthReads (Subject.unit target).healthWrites
      fun w => (fireThreshold w target before after).1 := by
  refine .of_unit target (fun w hw => ?_) fun v w b c h hv hw => ?_
  · rw [fireThreshold, hw]
    rfl
  · have hsame := sameHealth_of_agreeOn h (List.Subset.refl _) hv hw
    simp only [fireThreshold, hv, hw, Option.bind_some, triggered?_congr hsame]
    cases triggered? c before after with
    | none => exact ⟨_, .nothing, rfl, rfl⟩
    | some skill =>
      have hcovered : Covered (Subject.unit target).healthWrites
          (.tag (.unit target) (Stat.thresholdFired skill)) :=
        ⟨Key.tag (.unit target) Stat.thresholdFiredFamily,
          by simp [Subject.healthWrites, Subject.tag], covers_thresholdFired target skill⟩
      exact ⟨_, .edit (e := .tag (.unit target) (Stat.thresholdFired skill)) hcovered _, rfl, rfl⟩

theorem strike_confined {reads : List Key} (i : Impact) (flags : HitFlags) :
    Confined reads (Subject.unit target).healthWrites (i.strike target flags) := by
  refine .run _ (fun e he => covered_of_mem ?_) _
  rw [Impact.edits] at he
  split at he
  · rcases List.mem_cons.1 he with rfl | he
    · simp [Edit.location, Key.ofLocation, Subject.healthWrites, Subject.var]
    · rw [List.mem_singleton.1 he]
      simp [Edit.location, Key.ofLocation, Subject.healthWrites, Subject.var]
  · rw [List.mem_singleton.1 he]
    simp [Edit.location, Key.ofLocation, Subject.healthWrites, Subject.var]

theorem damagePlain_confined (rules : Rules) (amount : Int64) (flags : HitFlags) :
    Confined (Subject.unit target).healthReads (Subject.unit target).healthWrites
      fun w => (damagePlain rules w target amount flags).outcome := by
  refine .of_unit target (fun w hw => ?_) fun v w b c h hv hw => ?_
  · exact outcome_damagePlain_of_none hw rules amount flags
  · by_cases hamount : amount ≤ 0
    · rw [outcome_damagePlain_of_nonpos hamount, outcome_damagePlain_of_nonpos hamount]
      exact ⟨_, .nothing, rfl, rfl⟩
    · have hsame := sameHealth_of_agreeOn h (List.Subset.refl _) hv hw
      rw [outcome_damagePlain hv hamount, outcome_damagePlain hw hamount,
        impact_congr rules hsame, hp_congr hsame]
      exact ⟨_, ((strike_confined _ flags).andThen (healAfterHit_confined _)).andThen
        (fireThreshold_confined _ _), rfl, rfl⟩

theorem routeDamage_confined (rules : Rules) (amount : Int64) (flags : HitFlags) :
    Confined (Subject.unit target).healthReads (Subject.unit target).healthWrites
      fun w => (routeDamage rules w target amount flags).outcome := by
  refine .of_agree fun v w h => ?_
  have hreversed : isReversed v Stat.reverseDamageTurns = isReversed w Stat.reverseDamageTurns :=
    isReversed_of_agreeOn h (by simp [Subject.healthReads])
  simp only [routeDamage, hreversed]
  by_cases hw : isReversed w Stat.reverseDamageTurns = true
  · simp only [if_pos hw]
    exact ⟨_, healPlain_confined amount _, rfl, rfl⟩
  · simp only [if_neg hw]
    exact ⟨_, damagePlain_confined rules amount flags, rfl, rfl⟩

theorem damage_confined (rules : Rules) (amount : Int64) :
    Confined (Subject.unit target).healthReads (Subject.unit target).healthWrites
      fun w => (damage rules w target amount).outcome :=
  routeDamage_confined rules amount {}

theorem heal_confined (rules : Rules) (amount : Int64) :
    Confined (Subject.unit target).healthReads (Subject.unit target).healthWrites
      fun w => (heal rules w target amount).outcome := by
  refine .of_agree fun v w h => ?_
  have hreversed : isReversed v Stat.reverseHealTurns = isReversed w Stat.reverseHealTurns :=
    isReversed_of_agreeOn h (by simp [Subject.healthReads])
  simp only [heal, hreversed]
  by_cases hw : isReversed w Stat.reverseHealTurns = true
  · simp only [if_pos hw]
    exact ⟨_, damagePlain_confined rules amount _, rfl, rfl⟩
  · simp only [if_neg hw]
    exact ⟨_, healPlain_confined amount {}, rfl, rfl⟩

end Health

/-! ## Attacks -/

section Attack

variable {attacker defender : String}

/-- An attack reads all that damage to its defender reads. -/
theorem healthReads_subset_attackReads (a d : Subject) : d.healthReads ⊆ a.attackReads d :=
  List.subset_append_right ..

theorem healthWrites_subset_attackWrites (a d : Subject) : d.healthWrites ⊆ a.attackWrites d :=
  List.subset_append_right ..

theorem confined_attack_of_health {step : World → Outcome}
    (h : Confined (Subject.unit defender).healthReads (Subject.unit defender).healthWrites step) :
    Confined (Subject.attackReads (.unit attacker) (.unit defender))
      (Subject.attackWrites (.unit attacker) (.unit defender)) step :=
  h.mono (covered_of_subset (healthReads_subset_attackReads ..))
    (covered_of_subset (healthWrites_subset_attackWrites ..))

theorem sameAttacker_of_agreeOn
    (h : v.AgreeOn (Subject.attackReads (.unit attacker) (.unit defender)) w)
    {b c : Bag} (hv : v.unit? attacker = some b) (hw : w.unit? attacker = some c) :
    SameAttacker b c := by
  refine ⟨fun name hname => ?_, ?_⟩
  · refine h.get? (p := .unit attacker) hv hw (covered_of_mem ?_)
    have hmem := List.mem_map_of_mem (f := (Subject.unit attacker).var) hname
    simp only [Subject.attackReads, List.append_assoc]
    exact List.mem_append_left _ hmem
  · refine h.hasTag (p := .unit attacker) hv hw (covered_of_mem ?_)
    simp [Subject.attackReads, Subject.tag, Key.ofLocation]

theorem sameDefender_of_agreeOn
    (h : v.AgreeOn (Subject.attackReads (.unit attacker) (.unit defender)) w)
    {b c : Bag} (hv : v.unit? defender = some b) (hw : w.unit? defender = some c) :
    SameDefender b c := by
  refine ⟨sameHealth_of_agreeOn h (healthReads_subset_attackReads _ _) hv hw,
    fun name hname => ?_, ?_⟩
  · refine h.get? (p := .unit defender) hv hw (covered_of_mem ?_)
    have hmem := List.mem_map_of_mem (f := (Subject.unit defender).var) hname
    simp only [Subject.attackReads, List.append_assoc]
    exact List.mem_append_right _ (List.mem_append_right _ (List.mem_append_left _ hmem))
  · refine h.hasTag (p := .unit defender) hv hw (covered_of_mem ?_)
    simp [Subject.attackReads, Subject.tag, Key.ofLocation]

theorem spendCounter_confined {reads : List Key} (counter : Bool) :
    Confined reads (Subject.attackWrites (.unit attacker) (.unit defender)) fun w =>
      ⟨if counter then w.updateUnit attacker (·.unset Stat.counterMultiplier) else w, []⟩ := by
  cases counter with
  | false => exact .nothing
  | true =>
    refine .edit (e := .unset (.unit attacker) Stat.counterMultiplier) (covered_of_mem ?_) []
    simp [Edit.location, Key.ofLocation, Subject.attackWrites, Subject.var]

theorem land_confined (rules : Rules) (a : Attack) :
    Confined (Subject.attackReads (.unit attacker) (.unit defender))
      (Subject.attackWrites (.unit attacker) (.unit defender))
      fun w => (land rules w attacker defender a).outcome := by
  refine .of_unit attacker (fun w hw => ?_) fun v w b c h hv hw => ?_
  · rw [land, hw]
    rfl
  rcases h.unit?_cases defender with ⟨hv', hw'⟩ | ⟨b', c', hv', hw'⟩
  · refine ⟨_, .nothing, ?_, ?_⟩
    · rw [land, hv, hv']
      rfl
    · rw [land, hw, hw']
      rfl
  have hweighed : mitigate rules b b' a = mitigate rules c c' a :=
    mitigate_congr rules (sameAttacker_of_agreeOn h hv hw) (sameDefender_of_agreeOn h hv' hw') a
  have hdamage : Confined (Subject.attackReads (.unit attacker) (.unit defender))
      (Subject.attackWrites (.unit attacker) (.unit defender)) fun w =>
        (routeDamage rules w defender (mitigate rules c c' a).1 (mitigate rules c c' a).2).outcome :=
    confined_attack_of_health (routeDamage_confined rules _ _)
  refine ⟨_, (spendCounter_confined (mitigate rules c c' a).2.counter).andThen hdamage, ?_, ?_⟩
  · simp only [land, hv, hv', hweighed]
    rfl
  · simp only [land, hw, hw']
    rfl

theorem covered_evasionEdits (rules : Rules) (unit : Bag) (evasion : Evasion) :
    ∀ e ∈ evasionEdits rules defender unit evasion,
      Covered (Subject.attackWrites (.unit attacker) (.unit defender)) e.location := by
  intro e he
  obtain ⟨name, hname, hlocation⟩ := location_of_mem_evasionEdits he
  rw [hlocation]
  refine covered_of_mem ?_
  simp only [counters, List.mem_cons, List.not_mem_nil, or_false] at hname
  rcases hname with rfl | rfl | rfl <;> simp [Key.ofLocation, Subject.attackWrites, Subject.var]

/-- An attack reads and writes inside its footprint, whichever way it ends. -/
theorem attack_confined (rules : Rules) (a : Attack) :
    Confined (Subject.attackReads (.unit attacker) (.unit defender))
      (Subject.attackWrites (.unit attacker) (.unit defender))
      fun w => (attack rules w attacker defender a).outcome := by
  refine .of_unit defender (fun w hw => ?_) fun v w b c h hv hw => ?_
  · exact outcome_attack_of_no_defender hw rules attacker a
  have hsame := sameDefender_of_agreeOn h hv hw
  simp only [outcome_attack hv, outcome_attack hw, isUntargetable_congr hsame, h.hasUnit attacker,
    evasionSeed_congr h.toAlike defender hsame, evasionOf_congr rules hsame,
    evasionEdits_congr rules defender hsame]
  by_cases htrue : a.kind = .true
  · simp only [if_pos htrue]
    exact ⟨_, confined_attack_of_health (damage_confined rules a.power), rfl, rfl⟩
  by_cases haway : c.isUntargetable = true ∨ (!w.hasUnit attacker) = true
  · simp only [if_neg htrue, if_pos haway]
    exact ⟨_, .nothing, rfl, rfl⟩
  simp only [if_neg htrue, if_neg haway]
  generalize evasionOf rules c (evasionSeed w defender c) = evasion
  have hcheck : Confined (Subject.attackReads (.unit attacker) (.unit defender))
      (Subject.attackWrites (.unit attacker) (.unit defender)) fun w =>
        ⟨Edit.run (evasionEdits rules defender c evasion) w,
          evasionTrace attacker defender evasion⟩ :=
    .run _ (covered_evasionEdits rules c evasion) _
  by_cases hevaded : evasion.evaded = true
  · simp only [if_pos hevaded]
    exact ⟨_, hcheck, rfl, rfl⟩
  · simp only [if_neg hevaded]
    exact ⟨_, hcheck.andThen (land_confined rules a), rfl, rfl⟩

end Attack

/-! ## Attacks on units chosen on the way -/

@[simp] theorem within_anyVar (id name : String) :
    ((Subject.unit id).var name).Within (Subject.any.var name) := by
  intro l hl
  cases l with
  | var place name' =>
    cases place <;> simp_all [Subject.var, Key.covers, Key.ofLocation]
  | _ => simp [Subject.var, Key.covers, Key.ofLocation] at hl

@[simp] theorem within_anyTag (id name : String) :
    ((Subject.unit id).tag name).Within (Subject.any.tag name) := by
  intro l hl
  cases l with
  | tag place name' =>
    cases place <;> simp_all [Subject.tag, Key.covers, Key.ofLocation]
  | _ => simp [Subject.tag, Key.covers, Key.ofLocation] at hl

theorem attackReads_within_any (a : Subject) (id : String) :
    List.Forall₂ Key.Within (a.attackReads (.unit id)) (a.attackReads .any) := by
  simp [Subject.attackReads, Subject.healthReads]

theorem attackWrites_within_any (a : Subject) (id : String) :
    List.Forall₂ Key.Within (a.attackWrites (.unit id)) (a.attackWrites .any) := by
  simp [Subject.attackWrites, Subject.healthWrites]

end Skirmish.Combat
