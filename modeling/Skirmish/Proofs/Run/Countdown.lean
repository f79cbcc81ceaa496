import Skirmish.Proofs.Run.Stream
import Skirmish.Proofs.Run.Vitals
import Skirmish.Proofs.Upkeep.Statuses

/-!
# Statuses over many turns

A status that has some turns left lasts for just as many ends of turns. The end of the last of these
turns tells that it has run out, and no other does (`Command.statuses_endTurns`).
-/

namespace Skirmish

namespace Upkeep

variable {id : String} {unit : Bag} {w : World}

/-! ## Which statuses run out -/

theorem mem_expiries_iff (id : String) {status : Stat.TimedStatus}
    (hstatus : status ∈ Stat.timedStatuses) :
    .statusExpired id status.tag ∈ expiries id unit ↔ unit.int status.counter = 1 := by
  have hinj : ∀ s ∈ Stat.timedStatuses, ∀ t ∈ Stat.timedStatuses, s.tag = t.tag → s = t := by
    decide
  simp only [expiries, expiring, List.mem_map, List.mem_filter, decide_eq_true_eq]
  constructor
  · rintro ⟨other, ⟨hother, hone⟩, hevent⟩
    injection hevent with _ htag
    rw [← hinj other hother status hstatus htag]
    exact hone
  · exact fun hone => ⟨status, ⟨hstatus, hone⟩, rfl⟩

theorem nodup_expiries (id : String) (unit : Bag) : (expiries id unit).Nodup := by
  refine List.nodup_iff_pairwise_ne.2 (List.pairwise_map.2 ?_)
  refine (separate_timedStatuses.filter _).imp fun {first later} hapart hevent => ?_
  injection hevent with _ htag
  exact hapart.1 htag

theorem id_of_mem_expiries {other tag : String} (h : .statusExpired id tag ∈ expiries other unit) :
    other = id := by
  obtain ⟨status, -, hevent⟩ := List.mem_map.1 h
  injection hevent

theorem nodup_flatMap_expiries (w : World) :
    (w.units.entries.flatMap fun u => expiries u.1 u.2).Nodup := by
  rw [List.nodup_iff_pairwise_ne, List.pairwise_flatMap]
  refine ⟨fun u _ => List.nodup_iff_pairwise_ne.1 (nodup_expiries u.1 u.2), ?_⟩
  refine w.units.sorted.imp fun {u v} hlt e he later hlater heq => ?_
  obtain ⟨status, -, rfl⟩ := List.mem_map.1 he
  rw [← heq] at hlater
  rw [id_of_mem_expiries hlater] at hlt
  exact String.lt_irrefl _ hlt

/-- Only what has been announced is not about combat. -/
theorem count_events {e : Event} (he : e.isCombat = false) (p : Passage) :
    p.events.count e = p.announced.count e := by
  rw [Passage.events, Passage.announced]
  induction p.entries with
  | nil => rfl
  | cons entry entries ih =>
    cases entry with
    | announced e' =>
      have hevent : (Entry.announced e').event? = some e' := rfl
      have hannounced : (Entry.announced e').announced? = some e' := rfl
      rw [List.filterMap_cons_some hevent, List.filterMap_cons_some hannounced, List.count_cons,
        List.count_cons, ih]
    | recorded t =>
      have hquiet : (Entry.recorded t).announced? = none := rfl
      rw [List.filterMap_cons_none hquiet, ← ih]
      cases ht : (Entry.recorded t).event? with
      | none => rw [List.filterMap_cons_none ht]
      | some e' =>
        have hne : e' ≠ e := by
          rintro rfl
          rw [Event.isCombat_of_ofTrace? ht] at he
          cases he
        rw [List.filterMap_cons_some ht, List.count_cons_of_ne hne]

/-- The end of a turn tells of those statuses, once each, that have one turn left. -/
theorem count_statusExpired {status : Stat.TimedStatus} (hstatus : status ∈ Stat.timedStatuses)
    (hunit : w.unit? id = some unit) (rules : Rules) :
    (run rules w).events.count (.statusExpired id status.tag) =
      if unit.int status.counter = 1 then 1 else 0 := by
  have hmem : .statusExpired id status.tag ∈ (w.units.entries.flatMap fun u => expiries u.1 u.2) ↔
      unit.int status.counter = 1 := by
    rw [← mem_expiries_iff id hstatus, List.mem_flatMap]
    constructor
    · rintro ⟨⟨other, bag⟩, hentry, hexpired⟩
      have hother : other = id := id_of_mem_expiries hexpired
      subst hother
      cases hunit.symm.trans (NameMap.get?_of_mem_entries hentry)
      exact hexpired
    · exact fun hexpired => ⟨(id, unit), NameMap.mem_entries_of_get? hunit, hexpired⟩
  have hdeaths : ((dead (tended rules w)).map fun d => Event.died d.1 d.2).count
      (.statusExpired id status.tag) = 0 := by
    rw [List.count_eq_zero, List.mem_map]
    rintro ⟨d, -, hdied⟩
    cases hdied
  have hturn : [Event.advanced w.turn (w.turn + 1)].count (.statusExpired id status.tag) = 0 := by
    simp
  rw [count_events rfl, announced_run, List.count_append, List.count_append, hdeaths, hturn,
    (nodup_flatMap_expiries w).count]
  simp only [hmem, Nat.add_zero]

end Upkeep

namespace Command

variable {id : String} {first last unit : Bag} {left : Nat} {w : World}

/-! ## Over many turns -/

theorem lasts_endTurns {status : Stat.TimedStatus} (hstatus : status ∈ Stat.timedStatuses)
    (turns : List Rules)
    (h : ∀ unit, w.unit? id = some unit →
      Upkeep.Steady status.vars unit ∧ Upkeep.Lasts status first left unit)
    (hlast : (run (endTurns turns) w).unit? id = some last) :
    Upkeep.Lasts status first (left - turns.length) last := by
  induction turns generalizing w left with
  | nil => exact (h last hlast).2
  | cons rules turns ih =>
    rw [run_endTurns_cons] at hlast
    have hnext := ih (fun unit hunit => Upkeep.lasts_run hstatus rules h hunit) hlast
    rwa [Nat.sub_sub, Nat.add_comm] at hnext

theorem lasts_global_endTurns {toggle : String × String} (htoggle : toggle ∈ Upkeep.toggles)
    (turns : List Rules) (h : Upkeep.Lasts (Upkeep.ofToggle toggle) first left w.global) :
    Upkeep.Lasts (Upkeep.ofToggle toggle) first (left - turns.length)
      (run (endTurns turns) w).global := by
  induction turns generalizing w left with
  | nil => exact h
  | cons rules turns ih =>
    rw [run_endTurns_cons]
    have hnext := ih (Upkeep.lasts_global_run rules htoggle h)
    rwa [Nat.sub_sub, Nat.add_comm] at hnext

/-- A status that shows `n` turns, and that no change per turn is for, has so many fewer after some
ends of turns, as long as its unit survives them; after `n` of them it is over, and the end of
exactly that turn tells so, once. The global toggles last as long as they show too. -/
theorem statuses_endTurns (turns : List Rules) (w : World) :
    (∀ status ∈ Stat.timedStatuses, ∀ id unit last (n : Nat), w.unit? id = some unit →
      1 ≤ n → (unit.int status.counter).toInt = n → Upkeep.Steady status.vars unit →
      (run (endTurns turns) w).unit? id = some last →
        Upkeep.Lasts status unit (n - turns.length) last ∧
        ∀ rules, (Turn.finish rules (run (endTurns turns) w)).events.count
          (.statusExpired id status.tag) = if turns.length + 1 = n then 1 else 0) ∧
    ∀ toggle ∈ Upkeep.toggles, ∀ n : Nat, 1 ≤ n → (w.global.int toggle.1).toInt = n →
      Upkeep.Lasts (Upkeep.ofToggle toggle) w.global (n - turns.length)
        (run (endTurns turns) w).global := by
  constructor
  · intro status hstatus id unit last n hunit hn hcounter hsteady hlast
    have hlasts : Upkeep.Lasts status unit (n - turns.length) last := by
      refine lasts_endTurns hstatus turns (fun unit' hunit' => ?_) hlast
      cases hunit.symm.trans hunit'
      exact ⟨hsteady, .start hn hcounter⟩
    refine ⟨hlasts, fun rules => ?_⟩
    have hone : last.int status.counter = 1 ↔ turns.length + 1 = n := by
      rw [← Int64.toInt_inj, hlasts.toInt_counter, Int64.toInt_one]
      omega
    have hcount := Upkeep.count_statusExpired hstatus hlast rules
    simp only [hone] at hcount
    exact hcount
  · intro toggle htoggle n hn hcounter
    exact lasts_global_endTurns htoggle turns (.start hn hcounter)

/-- A stunned unit that takes less damage for two turns, while healing is reversed for one. -/
theorem statuses_endTurns_bob :
    let bob (name : String) (value : Int64) : Edit := .set (.unit "bob") name (.int value)
    let w := Edit.run
      [bob Stat.damageReductionTurns 2, .set (.unit "bob") Stat.damageReduction (.float 0.5),
        .tag (.unit "bob") "damage_reduction", bob Stat.stunnedTurns 1, bob Stat.hpRegen 3,
        bob (Stat.perTurn ++ Stat.attack) 1, .set .global Stat.reverseHealTurns (.int 1),
        .tag .global Stat.reverseHeal] arena
    let status : Stat.TimedStatus :=
      { counter := Stat.damageReductionTurns, tag := "damage_reduction",
        companion? := some Stat.damageReduction }
    let toggle := (Stat.reverseHealTurns, Stat.reverseHeal)
    ∃ unit last, w.unit? "bob" = some unit ∧ (unit.int status.counter).toInt = 2 ∧
      Upkeep.Steady status.vars unit ∧ (run (endTurns [{}]) w).unit? "bob" = some last ∧
      Upkeep.Lasts status unit 1 last ∧
      (∀ rules, (Turn.finish rules (run (endTurns [{}]) w)).events.count
        (.statusExpired "bob" status.tag) = 1) ∧
      (w.global.int toggle.1).toInt = 1 ∧
      Upkeep.Lasts (Upkeep.ofToggle toggle) w.global 0 (run (endTurns [{}]) w).global := by
  intro bob w status toggle
  obtain ⟨unit, hunit⟩ : ∃ unit, w.unit? "bob" = some unit :=
    Option.isSome_iff_exists.1 (by decide)
  obtain ⟨last, hlast⟩ : ∃ last, (run (endTurns [{}]) w).unit? "bob" = some last :=
    Option.isSome_iff_exists.1 (by decide +kernel)
  have hstats : ∀ unit ∈ w.unit? "bob", (unit.int status.counter).toInt = 2 ∧
      ∀ change ∈ Upkeep.changes unit,
        Upkeep.afterPrefix? Stat.perTurn change.1 = none ∧ change.1 ∉ status.vars := by
    decide
  obtain ⟨hcounter, hchanges⟩ := hstats unit hunit
  have hsteady := Upkeep.steady_of_changes (by decide) hchanges
  have htoggle : (w.global.int toggle.1).toInt = 1 := by decide
  obtain ⟨hstatuses, htoggles⟩ := statuses_endTurns [{}] w
  obtain ⟨hlasts, hcount⟩ :=
    hstatuses status (by decide) "bob" unit last 2 hunit (by decide) hcounter hsteady hlast
  exact ⟨unit, last, hunit, hcounter, hsteady, hlast, hlasts, hcount, htoggle,
    htoggles toggle (by decide) 1 (by decide) htoggle⟩

end Command

end Skirmish
