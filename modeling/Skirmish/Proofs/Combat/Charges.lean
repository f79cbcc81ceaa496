import Skirmish.Proofs.Combat.Strike
import Skirmish.Proofs.Course.Combat

/-!
# Sure evasions

A unit with charges evades as many strikes as it has charges, whoever attacks and whatever its
chance: each strike spends one charge, and all that they change is the charges and the pending
counter (`Strike.Spends`). What cannot be evaded, or does not come to the check, spends none.
-/

namespace Skirmish

namespace Combat

variable {rules : Rules} {w : World} {attacker defender : String} {unit : Bag} {a : Attack}

/-- Damage that skips the check spends no charge of anybody. -/
theorem charges_damage (hunit : w.unit? defender = some unit) (target : String) (amount : Int64) :
    ∃ last, (damage rules w target amount).outcome.world.unit? defender = some last ∧
      last.get? Stat.evadeCharges = unit.get? Stat.evadeCharges := by
  have hfollows : Follows (Spares defender [Stat.evadeCharges]) rules defender w
      (damage rules w target amount).outcome := damage_follows w target amount
  obtain ⟨last, hlast, hcourse⟩ := hfollows unit hunit
  let keeps (b : Bag) : Prop := b.get? Stat.evadeCharges = unit.get? Stat.evadeCharges
  have hmoments : ∀ {before events after},
      Moment (Spares defender [Stat.evadeCharges]) rules defender before events after →
        keeps before → keeps after := fun hmoment hkept =>
    (hmoment.get?_eq List.mem_cons_self (by decide) (by decide)).trans hkept
  have hkeeps : keeps last := hcourse.invariant hmoments rfl
  exact ⟨last, hlast, hkeeps⟩

/-- An attack spends no charge if it is not to be evaded, if its target is out of reach or if nobody
makes it. -/
theorem charges_attack (hunit : w.unit? defender = some unit)
    (hskips : a.kind = .true ∨ unit.isUntargetable = true ∨ w.hasUnit attacker = false) :
    ∃ last, (attack rules w attacker defender a).outcome.world.unit? defender = some last ∧
      last.get? Stat.evadeCharges = unit.get? Stat.evadeCharges := by
  rw [outcome_attack hunit]
  by_cases htrue : a.kind = .true
  · rw [if_pos htrue]
    exact charges_damage hunit defender a.power
  · have haway : unit.isUntargetable = true ∨ (!w.hasUnit attacker) = true := by
      rcases hskips with hkind | haway | hmissing
      · exact absurd hkind htrue
      · exact .inl haway
      · exact .inr (by rw [hmissing]; rfl)
    rw [if_neg htrue, if_pos haway]
    exact ⟨unit, hunit, rfl⟩

end Combat

namespace Strike

/-- What is left of a unit that spent `n` charges on evasions: the charges are gone and a counter is
pending, and nothing else has changed. Health that a unit lacks is filled in by any change. -/
structure Spends (rules : Rules) (n : Nat) (unit last : Bag) : Prop where
  charges : (last.int Stat.evadeCharges).toInt = (unit.int Stat.evadeCharges).toInt - n
  counter : last.get? Stat.counterMultiplier =
    if n = 0 then unit.get? Stat.counterMultiplier else some (.float rules.counterMultiplier)
  hp : last.hp = unit.hp
  vars : ∀ name, name ≠ Stat.evadeCharges → name ≠ Stat.counterMultiplier →
    (name = Stat.hp → unit.contains Stat.hp = true) → last.get? name = unit.get? name
  tags : ∀ tag, last.hasTag tag = unit.hasTag tag

namespace Spends

variable {rules : Rules} {unit mid last : Bag} {m n : Nat}

theorem refl (rules : Rules) (unit : Bag) : Spends rules 0 unit unit where
  charges := by omega
  counter := rfl
  hp := rfl
  vars := fun _ _ _ _ => rfl
  tags := fun _ => rfl

theorem contains_hp (h : Spends rules m unit mid) (hhp : unit.contains Stat.hp = true) :
    mid.contains Stat.hp = true := by
  rw [Bag.contains_congr (h.vars Stat.hp (by decide) (by decide) fun _ => hhp)]
  exact hhp

theorem trans (h : Spends rules m unit mid) (k : Spends rules n mid last) :
    Spends rules (m + n) unit last where
  charges := by
    rw [k.charges, h.charges]
    omega
  counter := by
    rw [k.counter, h.counter]
    by_cases hn : n = 0
    · rw [hn, if_pos rfl, Nat.add_zero]
    · rw [if_neg hn, if_neg (by omega)]
  hp := k.hp.trans h.hp
  vars := fun name hcharges hcounter hhp =>
    (k.vars name hcharges hcounter fun heq => h.contains_hp (hhp heq)).trans
      (h.vars name hcharges hcounter hhp)
  tags := fun tag => (k.tags tag).trans (h.tags tag)

theorem untargetable (h : Spends rules m unit mid) : mid.isUntargetable = unit.isUntargetable :=
  Bag.isActive_congr
    (h.vars Stat.untargetableTurns (by decide) (by decide) fun heq => absurd heq (by decide))

/-- An evasion on a charge. -/
theorem one (rules : Rules) {w : World} {defender : String}
    (hunit : w.unit? defender = some unit) (hcharge : 0 < (unit.int Stat.evadeCharges).toInt) :
    ∃ last, (Edit.run (Combat.evasionEdits rules defender unit .guaranteed) w).unit? defender =
      some last ∧ Spends rules 1 unit last := by
  rw [Combat.evasionEdits, ← Combat.updateUnit_set_set, World.unit?_updateUnit_self hunit]
  have hhigh := (unit.int Stat.evadeCharges).toInt_lt
  have hone : (1 : Int64).toInt = 1 := rfl
  refine ⟨_, rfl, ?_, ?_, ?_, fun name hcharges hcounter hhp => ?_, fun tag => ?_⟩
  · rw [Place.int_keep, Bag.int_set, if_neg (by decide), Bag.int_set, if_pos rfl]
    exact Saturating.toInt_sub_of_fits (by omega) (by omega)
  · rw [Place.get?_keep_of_ne _ _ (by decide), Bag.get?_set, if_pos rfl, if_neg Nat.one_ne_zero]
  · rw [Place.hp_keep, Bag.hp, Bag.int_set, if_neg (by decide), Bag.int_set, if_neg (by decide),
      ← Bag.hp]
  · have hget : ((unit.set Stat.evadeCharges (.int (unit.int Stat.evadeCharges - 1))).set
        Stat.counterMultiplier (.float rules.counterMultiplier)).get? name = unit.get? name := by
      rw [Bag.get?_set, if_neg hcounter, Bag.get?_set, if_neg hcharges]
    rw [Place.get?_keep, hget]
    split
    · next hfilled =>
      obtain ⟨value, hvalue⟩ := Option.isSome_iff_exists.1 (hhp hfilled.2)
      rw [hfilled.2]
      show some ((unit.get? Stat.hp).getD (.int 0)) = unit.get? Stat.hp
      rw [show unit.get? Stat.hp = some value from hvalue]
      rfl
    · rfl
  · rw [Place.hasTag_keep, Bag.hasTag_set, Bag.hasTag_set]

end Spends

variable {rules : Rules} {w : World} {defender : String} {unit : Bag} {strikes : List Strike}

/-- A unit with a charge evades, and no roll is drawn. -/
theorem resolve_of_charge {s : Strike} (hunit : w.unit? s.target = some unit)
    (htargetable : unit.isUntargetable = false) (hpresent : w.hasUnit s.attacker = true)
    (hcharge : 0 < unit.int Stat.evadeCharges) :
    s.resolve rules w =
      ⟨{ target := s.target, flags := { evaded := true } },
        ⟨Edit.run (Combat.evasionEdits rules s.target unit .guaranteed) w,
          [.evaded s.attacker s.target]⟩⟩ := by
  have hends : Combat.evasionOf rules unit (Combat.evasionSeed w s.target unit) = .guaranteed :=
    if_pos hcharge
  rw [resolve_eq hunit hpresent, hends, if_neg (Bool.eq_false_iff.1 htargetable)]
  rfl

/-- As many strikes as a unit has charges are evaded, and nothing but that unit changes. -/
theorem run_of_charges (hunit : w.unit? defender = some unit)
    (htargetable : unit.isUntargetable = false)
    (haimed : ∀ s ∈ strikes, s.target = defender ∧ w.hasUnit s.attacker = true)
    (hcharges : strikes.length ≤ (unit.int Stat.evadeCharges).toInt) :
    reports rules strikes w =
      strikes.map (fun _ => { target := defender, flags := { evaded := true } }) ∧
    (run rules strikes w).trace = strikes.map (fun s => .evaded s.attacker defender) ∧
    (∃ last, (run rules strikes w).world.unit? defender = some last ∧
      Spends rules strikes.length unit last) ∧
    (∀ p, p ≠ .unit defender → (run rules strikes w).world.bag? p = w.bag? p) ∧
    w.SameFrame (run rules strikes w).world := by
  induction strikes generalizing w unit with
  | nil => exact ⟨rfl, rfl, ⟨unit, hunit, .refl rules unit⟩, fun _ _ => rfl, .refl w⟩
  | cons s rest ih =>
    rw [List.length_cons] at hcharges
    obtain ⟨htarget, hattacker⟩ := haimed s List.mem_cons_self
    have hpositive : 0 < (unit.int Stat.evadeCharges).toInt := by omega
    let v := Edit.run (Combat.evasionEdits rules defender unit .guaranteed) w
    have hfirst : s.resolve rules w = ⟨{ target := defender, flags := { evaded := true } },
        ⟨v, [.evaded s.attacker defender]⟩⟩ := by
      subst htarget
      exact resolve_of_charge hunit htargetable hattacker (Int64.lt_iff_toInt_lt.2 hpositive)
    have hframe : w.SameFrame v := Edit.sameFrame_run _ w
    have hothers : ∀ p, p ≠ .unit defender → v.bag? p = w.bag? p := fun p hp => by
      show (Edit.run (Combat.evasionEdits rules defender unit .guaranteed) w).bag? p = w.bag? p
      rw [Combat.evasionEdits, ← Combat.updateUnit_set_set]
      exact (World.bag?_update w _ (.unit defender) p).trans (if_neg hp)
    obtain ⟨mid, hmid, hspent⟩ := Spends.one rules hunit hpositive
    -- The next strikes find one charge less, and the same attackers.
    have hleft : rest.length ≤ (mid.int Stat.evadeCharges).toInt := by
      rw [hspent.charges]
      omega
    have haimed' : ∀ s ∈ rest, s.target = defender ∧ v.hasUnit s.attacker = true := by
      intro s hs
      rw [← hframe.hasUnit]
      exact haimed s (List.mem_cons_of_mem _ hs)
    obtain ⟨hreports, htrace, ⟨last, hlast, hrest⟩, hstay, hframe'⟩ :=
      ih (w := v) hmid (hspent.untargetable.trans htargetable) haimed' hleft
    rw [run_cons, reports, hfirst]
    refine ⟨congrArg _ hreports, congrArg _ htrace, ⟨last, hlast, ?_⟩, fun p hp => ?_,
      hframe.trans hframe'⟩
    · rw [List.length_cons, Nat.add_comm]
      exact hspent.trans hrest
    · exact (hstay p hp).trans (hothers p hp)

/-- A unit with charges evades as many strikes as it has charges: each of them is recorded and
spends one charge, and nothing else changes but the counter that is pending then. True damage,
attacks on a unit out of reach and attacks by nobody spend none. -/
theorem charges_spent (rules : Rules) (hunit : w.unit? defender = some unit) :
    (∀ strikes : List Strike, unit.isUntargetable = false →
      (∀ s ∈ strikes, s.target = defender ∧ w.hasUnit s.attacker = true) →
      strikes.length ≤ (unit.int Stat.evadeCharges).toInt →
      let o := run rules strikes w
      reports rules strikes w =
        strikes.map (fun _ => { target := defender, flags := { evaded := true } }) ∧
      o.trace = strikes.map (fun s => .evaded s.attacker defender) ∧
      (∃ last, o.world.unit? defender = some last ∧ Spends rules strikes.length unit last) ∧
      (∀ p, p ≠ .unit defender → o.world.bag? p = w.bag? p) ∧ w.SameFrame o.world) ∧
    (∀ (target : String) (amount : Int64),
      ∃ last, (Combat.damage rules w target amount).outcome.world.unit? defender = some last ∧
        last.get? Stat.evadeCharges = unit.get? Stat.evadeCharges) ∧
    ∀ (attacker : String) (a : Combat.Attack),
      (a.kind = .true ∨ unit.isUntargetable = true ∨ w.hasUnit attacker = false) →
      ∃ last, (Combat.attack rules w attacker defender a).outcome.world.unit? defender = some last ∧
        last.get? Stat.evadeCharges = unit.get? Stat.evadeCharges :=
  ⟨fun _ htargetable haimed hcharges => run_of_charges hunit htargetable haimed hcharges,
    Combat.charges_damage hunit, fun _ _ hskips => Combat.charges_attack hunit hskips⟩

/-- Two strikes of different attackers on a unit with two charges. -/
theorem charges_spent_bob :
    let w := (Edit.set (.unit "bob") Stat.evadeCharges (.int 2)).apply arena
    let strikes : List Strike :=
      [{ school := .physical, attacker := "ann", target := "bob", power := 4 },
        { school := .magic, attacker := "cid", target := "bob", power := 6 }]
    ∃ unit, w.unit? "bob" = some unit ∧ unit.isUntargetable = false ∧
      (∀ s ∈ strikes, s.target = "bob" ∧ w.hasUnit s.attacker = true) ∧
      strikes.length ≤ (unit.int Stat.evadeCharges).toInt ∧
      (run {} strikes w).trace = [.evaded "ann" "bob", .evaded "cid" "bob"] ∧
      (∃ last, (run {} strikes w).world.unit? "bob" = some last ∧ Spends {} 2 unit last) ∧
      w.hasUnit "dan" = false ∧
      ∃ last, (Combat.attack {} w "dan" "bob" { kind := .magic, power := 6 }).outcome.world.unit?
          "bob" = some last ∧ last.get? Stat.evadeCharges = unit.get? Stat.evadeCharges := by
  intro w strikes
  obtain ⟨unit, hunit⟩ : ∃ unit, w.unit? "bob" = some unit :=
    Option.isSome_iff_exists.1 (by decide)
  have htargetable : ∀ unit ∈ w.unit? "bob", unit.isUntargetable = false := by decide
  have haimed : ∀ s ∈ strikes, s.target = "bob" ∧ w.hasUnit s.attacker = true := by decide
  have hcharges : ∀ unit ∈ w.unit? "bob",
      strikes.length ≤ (unit.int Stat.evadeCharges).toInt := by
    decide
  have hnobody : w.hasUnit "dan" = false := by decide
  obtain ⟨hspent, -, hskipped⟩ := charges_spent {} hunit
  have hevaded := hspent strikes (htargetable unit hunit) haimed (hcharges unit hunit)
  exact ⟨unit, hunit, htargetable unit hunit, haimed, hcharges unit hunit, hevaded.2.1,
    hevaded.2.2.1, hnobody, hskipped "dan" _ (.inr (.inr hnobody))⟩

end Strike

end Skirmish
