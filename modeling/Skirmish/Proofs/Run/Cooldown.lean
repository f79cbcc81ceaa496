import Skirmish.Proofs.Course.Standing
import Skirmish.Proofs.Run.Countdown
import Skirmish.Proofs.Script.Cost
import Skirmish.Proofs.Script.Deeds
import Skirmish.Proofs.Script.Validate

/-!
# How long cooldowns last

The cooldown of a skill is a variable of its caster, which a cast sets to the first turn at which
the skill is ready again. Nothing in the rules has to do with a variable of that name, so it stays
as long as no action writes or removes it and no change per turn is for it (`World.Reads.run`), and
until that turn comes the caster cannot cast the skill again. From then on the cooldown is no
obstacle (`Skill.cooldown_holds`).
-/

namespace Skirmish

/-- A variable of a unit has a value, as long as there is the unit. -/
def World.Reads (w : World) (id name : String) (value : Value) : Prop :=
  ∀ unit, w.unit? id = some unit → unit.get? name = some value

/-- An action neither writes nor removes a variable of a unit. -/
def Action.Leaves (id name : String) (a : Action) : Prop :=
  a.edited? ≠ some (.var (.unit id) name)

/-- No deed of a script writes or removes a variable of a unit. -/
def Script.Leaves (id name : String) (s : Script) (rules : Rules) (b : Script.Bindings)
    (w : World) : Prop :=
  ∀ d ∈ Script.stmtsDeeds rules s.stmts b w, ∀ a ∈ d.action?, a.Leaves id name

instance (id name : String) (a : Action) : Decidable (a.Leaves id name) :=
  inferInstanceAs (Decidable (_ ≠ _))

instance (id name : String) (s : Script) (rules : Rules) (b : Script.Bindings) (w : World) :
    Decidable (s.Leaves id name rules b w) :=
  inferInstanceAs
    (Decidable (∀ d ∈ Script.stmtsDeeds rules s.stmts b w, ∀ a ∈ d.action?, a.Leaves id name))

/-- What the script of a skill does in a cast. -/
def Skill.bindings (s : Skill) (caster : String) (target : CastTarget) : Script.Bindings :=
  { caster, target, metric := s.declared.metric }

namespace Command

/-- A command neither writes nor removes a variable of a unit: an action does not, a cast does not
with its cooldown nor with its script, and at the end of a turn no change per turn is for it. -/
def Leaves (id name : String) (rules : Rules) : Command → World → Prop
  | act a, _ => a.Leaves id name
  | cast skill script caster target, w =>
    let s := Skill.ofScript skill script
    (0 < s.declared.cooldown → caster = id → Stat.cooldownUntil skill ≠ name) ∧
      script.Leaves id name rules (s.bindings caster target) (s.startCooldown caster w)
  | endTurn, w => ∀ unit, w.unit? id = some unit → Upkeep.Steady [name] unit

/-- None of some commands does. -/
def AllLeave (id name : String) : List (Rules × Command) → World → Prop
  | [], _ => True
  | c :: cs, w => c.2.Leaves id name c.1 w ∧ AllLeave id name cs (c.2.perform c.1 w)

theorem AllLeave.of_append {id name : String} {cs later : List (Rules × Command)} {w : World}
    (h : AllLeave id name (cs ++ later) w) : AllLeave id name cs w := by
  induction cs generalizing w with
  | nil => trivial
  | cons c cs ih => exact ⟨h.1, ih h.2⟩

end Command

/-! ## The names of cooldowns -/

/-- A name that the rules do not know. -/
structure Stat.IsForeign (name : String) : Prop where
  fought : name ∉ Action.fought
  living : name ∉ Upkeep.livingVars
  statuses : ∀ status ∈ Stat.timedStatuses, name ∉ status.vars

theorem Stat.isForeign_cooldownUntil (skill : String) : IsForeign (cooldownUntil skill) := by
  have hother : ∀ {names : List String},
      (∀ name ∈ names, Upkeep.afterPrefix? "cooldown_until:" name = none) →
        cooldownUntil skill ∉ names := by
    intro names hnames hmem
    have hnone := hnames _ hmem
    rw [cooldownUntil, Upkeep.afterPrefix?_append] at hnone
    cases hnone
  have hstatuses : ∀ status ∈ timedStatuses, ∀ name ∈ status.vars,
      Upkeep.afterPrefix? "cooldown_until:" name = none := by decide
  exact ⟨hother (by decide), hother (by decide),
    fun status hstatus => hother (hstatuses status hstatus)⟩

namespace World.Reads

variable {w : World} {id name : String} {value : Value} {rules : Rules}

theorem apply (h : w.Reads id name value) (hforeign : Stat.IsForeign name) {a : Action}
    (ha : a.Leaves id name) : (a.apply rules w).world.Reads id name value := by
  intro last hlast
  rcases (Action.sameFrame_apply rules a w).unit?_cases id with ⟨-, hnone⟩ | ⟨unit, _, hunit, -⟩
  · rw [hnone] at hlast
    cases hlast
  · exact (Action.get?_apply hforeign.fought ha hunit hlast).trans (h unit hunit)

theorem rollChance (h : w.Reads id name value) (percent : Float) :
    (Script.rollChance w percent).1.Reads id name value := by
  unfold Script.rollChance
  split
  · exact h
  · split <;> exact h

/-- A variable that no action among some deeds writes or removes stays through them. -/
theorem leads (h : w.Reads id name value) (hforeign : Stat.IsForeign name) {ds : List Script.Deed}
    {o : Outcome} (hleads : Script.Leads rules w ds o)
    (hds : ∀ d ∈ ds, ∀ a ∈ d.action?, a.Leaves id name) : o.world.Reads id name value := by
  induction hleads with
  | nil w => exact h
  | act a rest ih =>
    obtain ⟨ha, hrest⟩ := List.forall_mem_cons.1 hds
    exact ih (h.apply hforeign (ha a rfl)) hrest
  | chance v rest ih => exact ih (h.rollChance v.asFloat) (List.forall_mem_cons.1 hds).2

theorem step (h : w.Reads id name value) (hforeign : Stat.IsForeign name) {s : Script}
    {b : Script.Bindings} (hs : s.Leaves id name rules b w) :
    (s.step rules b w).world.Reads id name value :=
  h.leads hforeign (Script.leads_step s rules b w) hs

theorem startCooldown (h : w.Reads id name value) (hforeign : Stat.IsForeign name) {s : Skill}
    {caster : String}
    (hname : 0 < s.declared.cooldown → caster = id → Stat.cooldownUntil s.name ≠ name) :
    (s.startCooldown caster w).Reads id name value := by
  rw [Skill.startCooldown]
  split
  · next hcooldown =>
    let ready := Saturating.add (Saturating.ofUInt64 w.turn) s.declared.cooldown
    let a : Action := .setVar (.unit caster) (Stat.cooldownUntil s.name) (.int ready)
    have ha : a.Leaves id name := by
      intro heq
      obtain ⟨hplace, hvar⟩ := Location.var.inj (Option.some.inj heq)
      exact hname hcooldown (Place.unit.inj hplace) hvar
    have hset : (a.apply {} w).world.Reads id name value := h.apply hforeign ha
    exact hset
  · exact h

theorem finish (h : w.Reads id name value) (hforeign : Stat.IsForeign name)
    (hsteady : ∀ unit, w.unit? id = some unit → Upkeep.Steady [name] unit) :
    (Turn.finish rules w).world.Reads id name value := by
  intro last hlast
  obtain ⟨unit, hunit, hsame⟩ :=
    Upkeep.get?_run rules hforeign.living hforeign.statuses hsteady hlast
  exact hsame.trans (h unit hunit)

theorem perform (h : w.Reads id name value) (hforeign : Stat.IsForeign name) {c : Command}
    (hc : c.Leaves id name rules w) : (c.perform rules w).Reads id name value := by
  cases c with
  | act a => exact h.apply hforeign hc
  | cast skill script caster target =>
    exact (h.startCooldown hforeign hc.1).step hforeign hc.2
  | endTurn => exact h.finish hforeign hc

theorem run (h : w.Reads id name value) (hforeign : Stat.IsForeign name)
    {cs : List (Rules × Command)} (hcs : Command.AllLeave id name cs w) :
    (Command.run cs w).Reads id name value := by
  induction cs generalizing w with
  | nil => exact h
  | cons c cs ih => exact ih (h.perform hforeign hcs.1) hcs.2

end World.Reads

namespace Skill

variable {s : Skill} {w : World} {caster : String} {unit : Bag}

/-! ## One cooldown -/

/-- The first turn after a cooldown, as it is stored. -/
def nextReady (s : Skill) (turn : UInt64) : Int64 :=
  Saturating.add (Saturating.ofUInt64 turn) s.declared.cooldown

theorem reads_startCooldown (hcooldown : 0 < s.declared.cooldown) (caster : String) (w : World) :
    (s.startCooldown caster w).Reads caster (Stat.cooldownUntil s.name)
      (.int (s.nextReady w.turn)) := by
  have hhp : Stat.cooldownUntil s.name ≠ Stat.hp := by
    intro heq
    have hforeign := (Stat.isForeign_cooldownUntil s.name).living
    rw [heq] at hforeign
    exact hforeign (by decide)
  intro last hlast
  rw [startCooldown, if_pos hcooldown] at hlast
  cases hunit : w.unit? caster with
  | none =>
    rw [World.updateUnit_of_none hunit, hunit] at hlast
    cases hlast
  | some unit =>
    rw [World.unit?_updateUnit_self hunit, Option.some.injEq] at hlast
    rw [← hlast, Place.get?_keep_of_ne _ _ hhp, Bag.get?_set, if_pos rfl]
    rfl

/-- Within the range of words the stored turn is the sum. -/
theorem toNat_readyAt {turn : UInt64} (hcooldown : 0 < s.declared.cooldown)
    (hfits : turn.toNat + s.declared.cooldown.toInt ≤ Int64.maxValue.toInt)
    (hunit : unit.get? (Stat.cooldownUntil s.name) = some (.int (s.nextReady turn))) :
    ((s.readyAt unit).toNat : Int) = turn.toNat + s.declared.cooldown.toInt := by
  have hmax : Int64.maxValue.toInt = 9223372036854775807 := rfl
  have hpositive : 0 < s.declared.cooldown.toInt := Int64.lt_iff_toInt_lt.1 hcooldown
  have hturn := Saturating.toInt_ofIntClamp turn.toNat
  have hsum := Saturating.toInt_add (Saturating.ofUInt64 turn) s.declared.cooldown
  have hint : unit.int (Stat.cooldownUntil s.name) = s.nextReady turn := by
    rw [Bag.int, hunit]
    rfl
  have hready : (s.nextReady turn).toInt = turn.toNat + s.declared.cooldown.toInt := by
    rw [nextReady, hsum, Saturating.ofUInt64, hturn]
    omega
  have hword : (turn.toNat + s.declared.cooldown.toInt).toNat < 2 ^ 64 := by omega
  rw [readyAt, hint, Saturating.toUInt64, hready, Nat.toUInt64, UInt64.toNat_ofNat',
    Nat.mod_eq_of_lt hword]
  omega

theorem validate_ne_ok (hunit : w.unit? caster = some unit) (h : w.turn < s.readyAt unit)
    (target : CastTarget) : s.validate w caster target ≠ .ok () := by
  rw [validate_eq hunit, if_pos h]
  split
  · nofun
  · split <;> nofun

theorem validate_ne_onCooldown (hunit : w.unit? caster = some unit) (h : ¬w.turn < s.readyAt unit)
    (target : CastTarget) (first turn : UInt64) :
    s.validate w caster target ≠ .error (.onCooldown first turn) := by
  rw [validate_eq hunit, if_neg h]
  intro herror
  split at herror
  · cases herror
  · split at herror
    · cases herror
    · split at herror
      · cases herror
      · cases checkAim_error herror

/-! ## From a cast on -/

/-- A cast of a skill blocks the skill for its caster until the cooldown is over, and no longer,
whatever else is done in between that leaves the variable of the cooldown alone: actions, casts, and
ends of turns. The script of the skill has to leave it alone too. -/
theorem cooldown_holds {name : String} {s : Script} {rules : Rules} {target : CastTarget}
    {o : Outcome} (hcast : (ofScript name s).cast rules w caster target = .ok o)
    (hcooldown : 0 < (ofScript name s).declared.cooldown)
    (hfits : w.turn.toNat + (ofScript name s).declared.cooldown.toInt ≤ Int64.maxValue.toInt)
    (hbody : s.Leaves caster (Stat.cooldownUntil name) rules
      ((ofScript name s).bindings caster target) ((ofScript name s).startCooldown caster w))
    {cs : List (Rules × Command)}
    (hcs : Command.AllLeave caster (Stat.cooldownUntil name) cs o.world) :
    let v := Command.run cs o.world
    let ready := w.turn.toNat + (ofScript name s).declared.cooldown.toInt
    (v.turn.toNat < ready → ∀ aim, (ofScript name s).validate v caster aim ≠ .ok ()) ∧
    (ready ≤ v.turn.toNat → ∀ aim first turn,
      (ofScript name s).validate v caster aim ≠ .error (.onCooldown first turn)) := by
  intro v ready
  have hforeign := Stat.isForeign_cooldownUntil name
  have hstart := reads_startCooldown hcooldown caster w
  obtain ⟨-, rfl⟩ := cast_eq_ok hcast
  have hreads : v.Reads caster (Stat.cooldownUntil name)
      (.int ((ofScript name s).nextReady w.turn)) := by
    refine World.Reads.run ?_ hforeign hcs
    exact hstart.step hforeign hbody
  cases hunit : v.unit? caster with
  | none =>
    refine ⟨fun _ aim => ?_, fun _ aim first turn => ?_⟩ <;> rw [validate_of_none hunit] <;> nofun
  | some unit =>
    have hready : (((ofScript name s).readyAt unit).toNat : Int) = ready :=
      toNat_readyAt hcooldown hfits (hreads unit hunit)
    refine ⟨fun hbefore => validate_ne_ok hunit ?_, fun hafter => validate_ne_onCooldown hunit ?_⟩
    · rw [UInt64.lt_iff_toNat_lt]
      omega
    · rw [UInt64.lt_iff_toNat_lt]
      omega

/-- A prayer that is ready again after two turns. -/
def prayer : Script where
  metas := [⟨.cooldown 2, default⟩]
  stmts := [⟨.heal (.lit (.int 1)) .caster, default⟩]

/-- In between the caster moves and somebody else prays. -/
theorem cooldown_holds_prayer :
    let s := ofScript "Prayer" prayer
    let v := (s.effect "ann" .none {} arena).world
    let turn : Rules × Command := ({}, .endTurn)
    let cs : List (Rules × Command) :=
      [({}, .act (.move "ann" ⟨2, 2⟩)), ({}, .cast "Prayer" prayer "bob" .none), turn]
    s.cast {} arena "ann" .none = .ok (s.effect "ann" .none {} arena) ∧
    (∀ aim, s.validate (Command.run cs v) "ann" aim ≠ .ok ()) ∧
    ∀ aim first now, s.validate (Command.run (cs ++ [turn]) v) "ann" aim ≠
      .error (.onCooldown first now) := by
  intro s v turn cs
  have hvalid : s.validate arena "ann" .none = .ok () := by decide +kernel
  have hcast : s.cast {} arena "ann" .none = .ok (s.effect "ann" .none {} arena) := by
    rw [cast, hvalid]
    rfl
  have hbody : prayer.Leaves "ann" (Stat.cooldownUntil "Prayer") {} (s.bindings "ann" .none)
      (s.startCooldown "ann" arena) := by decide +kernel
  have hmove : (Action.move "ann" ⟨2, 2⟩).Leaves "ann" (Stat.cooldownUntil "Prayer") := by
    decide +kernel
  have hother : Command.Leaves "ann" (Stat.cooldownUntil "Prayer") {}
      (.cast "Prayer" prayer "bob" .none) (Command.run (cs.take 1) v) := by
    refine ⟨fun _ h => absurd h (by decide), ?_⟩
    decide +kernel
  have hsteady : ∀ n, n = 2 ∨ n = 3 → Command.Leaves "ann" (Stat.cooldownUntil "Prayer") {}
      .endTurn (Command.run (cs.take n) v) := by
    have hchanges : ∀ n, n = 2 ∨ n = 3 →
        ∀ unit ∈ (Command.run (cs.take n) v).unit? "ann", Upkeep.changes unit = [] := by
      rintro n (rfl | rfl) <;> decide +kernel
    intro n hn unit hunit
    refine Upkeep.steady_of_changes (by decide +kernel) ?_
    rw [hchanges n hn unit hunit]
    exact fun _ h => absurd h List.not_mem_nil
  have hready : (0 : Int64) < s.declared.cooldown := by decide
  have hfits : arena.turn.toNat + s.declared.cooldown.toInt ≤ Int64.maxValue.toInt := by decide
  have hcs : Command.AllLeave "ann" (Stat.cooldownUntil "Prayer") (cs ++ [turn]) v :=
    ⟨hmove, hother, hsteady 2 (.inl rfl), hsteady 3 (.inr rfl), trivial⟩
  obtain ⟨hblocks, -⟩ := cooldown_holds hcast hready hfits hbody hcs.of_append
  obtain ⟨-, hfrees⟩ := cooldown_holds hcast hready hfits hbody hcs
  exact ⟨hcast, hblocks (by decide +kernel), hfrees (by decide +kernel)⟩

end Skill

end Skirmish
