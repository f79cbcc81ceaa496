import Mathlib.Algebra.Order.BigOperators.Group.List
import Mathlib.Algebra.Order.Ring.Int
import Skirmish.Proofs.Script.Frame
import Skirmish.Proofs.Script.Meaning
import Skirmish.Skill.Cast

/-!
# What a cast costs

The cost of a skill is told from the text of its script, before it runs; magic is taken by statement
after statement, each in the world it meets. Where only constants at the top level take magic, a cast
that is allowed takes what the skill declares (`Skill.magic_effect`).
-/

namespace Skirmish

/-! ## Magic -/

/-- The magic of a unit; no unit has none. -/
def World.magic (w : World) (id : String) : Int64 :=
  (((w.unit? id).bind (·.get? Stat.mp)).map Value.asInt).getD 0

/-- Every unit has the same magic, before and after. -/
def World.SameMagic (v w : World) : Prop :=
  ∀ id, w.content (.var (.unit id) Stat.mp) = v.content (.var (.unit id) Stat.mp)

namespace World

variable {v w : World} {id : String}

theorem lasting_sameMagic : Lasting SameMagic where
  refl _ _ := rfl
  trans h k id := (k id).trans (h id)
  roll _ _ := rfl

theorem magic_of_content {o : Option Value} (h : w.content (.var (.unit id) Stat.mp) = .value o) :
    w.magic id = (o.map Value.asInt).getD 0 :=
  congrArg (fun o => (o.map Value.asInt).getD 0) (Content.value.inj h)

theorem SameMagic.magic (h : v.SameMagic w) (id : String) : w.magic id = v.magic id :=
  magic_of_content (h id)

theorem magic_of_unit {unit : Bag} (h : w.unit? id = some unit) : w.magic id = unit.int Stat.mp := by
  rw [World.magic, h]
  rfl

end World

/-! ## What does not write magic -/

theorem Key.covers_var_of_ne {place : Place} {name other : String} (h : name ≠ other) {id : String} :
    (Key.var place name).covers (.var (.unit id) other) = false := by
  refine beq_false_of_ne fun heq => h ?_
  cases heq
  rfl

theorem Key.covers_tag_var {place : Place} {tag name id : String} :
    (Key.tag place tag).covers (.var (.unit id) name) = false := by
  cases place <;> exact beq_false_of_ne nofun

namespace Subject

theorem covers_var_of_ne {s : Subject} {name other : String} (h : name ≠ other) (id : String) :
    (s.var name).covers (.var (.unit id) other) = false := by
  cases s with
  | unit _ => exact Key.covers_var_of_ne h
  | any => exact beq_false_of_ne h

theorem covers_tag {s : Subject} {tag name id : String} :
    (s.tag tag).covers (.var (.unit id) name) = false := by
  cases s with
  | unit _ => exact Key.covers_tag_var
  | any => exact beq_false_of_ne nofun

theorem covers_magic_of_healthWrites {s : Subject} (id : String) :
    ∀ k ∈ s.healthWrites, k.covers (.var (.unit id) Stat.mp) = false := by
  simp only [healthWrites, List.forall_mem_cons]
  exact ⟨covers_var_of_ne (by decide) id, covers_var_of_ne (by decide) id, covers_tag,
    fun _ h => absurd h List.not_mem_nil⟩

theorem covers_magic_of_attackWrites {attacker defender : Subject} (id : String) :
    ∀ k ∈ attackWrites attacker defender, k.covers (.var (.unit id) Stat.mp) = false := by
  rw [attackWrites, List.forall_mem_append]
  refine ⟨?_, covers_magic_of_healthWrites id⟩
  simp only [List.forall_mem_cons]
  exact ⟨covers_var_of_ne (by decide) id, covers_var_of_ne (by decide) id,
    covers_var_of_ne (by decide) id, covers_var_of_ne (by decide) id,
    fun _ h => absurd h List.not_mem_nil⟩

end Subject

namespace Script

/-! ## Statements that leave magic alone -/

/-- Whether a statement may write a variable of the name of magic. -/
def Stmt.touchesMagic : Stmt → Bool
  | setVar _ name _ | addVar _ name _ | removeVar _ name => name == Stat.mp
  | consumeMp _ => true
  | _ => false

/-- What a statement writes that leaves magic alone is not the magic of any unit. -/
theorem covers_magic_eq_false {s : Stmt} (h : s.touchesMagic = false) {w : World} {b : Bindings}
    {a : Action} (ha : s.action? w b = some a) (id : String) :
    ∀ k ∈ a.writeKeys, k.covers (.var (.unit id) Stat.mp) = false := by
  have hvar : ∀ {place : Place} {name : String}, (name == Stat.mp) = false →
      ∀ k ∈ [Key.var place name], k.covers (.var (.unit id) Stat.mp) = false :=
    fun hname => List.forall_mem_singleton.2 (Key.covers_var_of_ne (ne_of_beq_false hname))
  cases s with
  | deal kind amount who =>
    obtain ⟨target, -, rfl⟩ := Option.map_eq_some_iff.1 ha
    cases kind with
    | physical | magic => exact Subject.covers_magic_of_attackWrites id
    | true => exact Subject.covers_magic_of_healthWrites id
  | heal amount who =>
    obtain ⟨target, -, rfl⟩ := Option.map_eq_some_iff.1 ha
    exact Subject.covers_magic_of_healthWrites id
  | move unit goal =>
    obtain ⟨id', -, ha⟩ := Option.bind_eq_some_iff.1 ha
    obtain ⟨place, -, ha⟩ := Option.bind_eq_some_iff.1 ha
    cases ha
    exact hvar rfl
  | dash who steps =>
    obtain ⟨target, -, rfl⟩ := Option.map_eq_some_iff.1 ha
    exact hvar rfl
  | line kind amount who length radius =>
    obtain ⟨target, -, rfl⟩ := Option.map_eq_some_iff.1 ha
    exact Subject.covers_magic_of_attackWrites id
  | setVar scope name value =>
    obtain ⟨place, -, rfl⟩ := Option.map_eq_some_iff.1 ha
    exact hvar h
  | addVar scope name delta =>
    obtain ⟨place, -, rfl⟩ := Option.map_eq_some_iff.1 ha
    cases place <;> exact hvar h
  | removeVar scope name =>
    obtain ⟨place, -, rfl⟩ := Option.map_eq_some_iff.1 ha
    exact hvar h
  | addTag scope tag | removeTag scope tag =>
    obtain ⟨place, -, rfl⟩ := Option.map_eq_some_iff.1 ha
    exact List.forall_mem_singleton.2 Key.covers_tag_var
  | consumeMp amount => cases h
  | _ => cases ha

theorem keeps_sameMagic {s : Stmt} (h : s.touchesMagic = false) : s.Keeps World.SameMagic := by
  intro rules b w a ha id
  refine (Action.apply_confined rules a).content_eq_of_ne_health ?_ (fun p heq => ?_) w
  · rintro ⟨k, hk, hcovers⟩
    rw [covers_magic_eq_false h ha id k hk] at hcovers
    cases hcovers
  · have hname := (Location.var.inj heq).2
    exact absurd hname (by decide)

/-! ## Statements that take magic -/

/-- A statement that takes magic at the top level, a constant amount of it, or that leaves magic alone
altogether. -/
def Stmt.PaysOpenly (s : Stmt) : Prop :=
  (∃ amount v, s = .consumeMp amount ∧ amount.constant? = some v) ∨
    ∀ leaf ∈ stmtLeaves s, leaf.touchesMagic = false

theorem sureCost?_nonneg {s : Stmt} {cost : Int64} (h : cost ∈ SkillMeta.sureCost? s) :
    0 ≤ cost.toInt := by
  cases s with
  | consumeMp amount =>
    obtain ⟨v, -, rfl⟩ := Option.map_eq_some_iff.1 h
    rw [Saturating.toInt_max, Int64.toInt_zero]
    exact Int.le_max_right _ _
  | _ => cases h

variable {rules : Rules} {b : Bindings} {w : World}

theorem sureCost?_of_constant? {amount : Expr} {v : Value} (h : amount.constant? = some v) :
    SkillMeta.sureCost? (.consumeMp amount) = some (max v.asInt 0) := by
  rw [SkillMeta.sureCost?, h, Option.map_some]

/-- A constant amount is taken, down to zero. -/
theorem toInt_magic_consumeMp {amount : Expr} {v : Value} (h : amount.constant? = some v)
    (hm : 0 ≤ (w.magic b.caster).toInt) :
    ((stepOf (.consumeMp amount) rules b w).world.magic b.caster).toInt =
      max ((w.magic b.caster).toInt - (max v.asInt 0).toInt) 0 := by
  have hcost := sureCost?_nonneg (sureCost?_of_constant? h)
  have hstep : stepOf (.consumeMp amount) rules b w =
      Step.ofAction (fun w b => (Stmt.consumeMp amount).action? w b) rules b w := by
    simp only [stepOf, stmtStep?, Option.getD_some]
  have haction : (Stmt.consumeMp amount).action? w b = consumeAction? w b.caster v.asInt := by
    rw [← Expr.eval_of_constant? h w b]
    rfl
  rw [hstep, Step.ofAction, haction, consumeAction?]
  cases hunit : w.unit? b.caster with
  | none =>
    have hzero : (w.magic b.caster).toInt = 0 := by
      rw [World.magic, hunit]
      rfl
    show (w.magic b.caster).toInt = _
    omega
  | some unit =>
    let e : Edit := .set (.unit b.caster) Stat.mp
      (.int (max (Saturating.sub (unit.int Stat.mp) (max v.asInt 0)) 0))
    have hbag : (w.bag? e.place).isSome := Option.isSome_of_eq_some hunit
    have hleft : (e.apply w).magic b.caster =
        max (Saturating.sub (unit.int Stat.mp) (max v.asInt 0)) 0 :=
      World.magic_of_content (Edit.content_apply_location hbag)
    have hrange := (unit.int Stat.mp).toInt_lt
    rw [World.magic_of_unit hunit] at hm ⊢
    refine (congrArg Int64.toInt hleft).trans ?_
    rw [Saturating.toInt_max, Saturating.toInt_sub, Int64.toInt_zero]
    omega

/-- What is surely taken of magic that is enough or not. -/
theorem toInt_magic_stepOf {s : Stmt} (h : s.PaysOpenly) (hm : 0 ≤ (w.magic b.caster).toInt) :
    ((stepOf s rules b w).world.magic b.caster).toInt =
      max ((w.magic b.caster).toInt - ((SkillMeta.sureCost? s).map Int64.toInt).getD 0) 0 := by
  rcases h with ⟨amount, v, rfl, hv⟩ | h
  · rw [toInt_magic_consumeMp hv hm, sureCost?_of_constant? hv]
    rfl
  · have hnone : SkillMeta.sureCost? s = none := by
      cases s with
      | consumeMp amount =>
        rw [stmtLeaves] at h
        cases h _ (List.mem_singleton_self _)
      | _ => rfl
    have hkeeps : (stepOf s).Keeps World.SameMagic := by
      have hsteps := keeps_stmtStep World.lasting_sameMagic s fun leaf hleaf =>
        keeps_sameMagic (h leaf hleaf)
      rw [stepOf]
      cases hstep : stmtStep? s with
      | none => exact fun _ _ w => World.lasting_sameMagic.refl w
      | some step => exact hsteps step hstep
    rw [(hkeeps rules b w).magic, hnone, Option.map_none, Option.getD_none]
    omega

/-- What a list of statements surely takes, if magic is enough for all of it. -/
def totalCost (l : List (Located Stmt)) : Int :=
  ((l.filterMap fun s => SkillMeta.sureCost? s.node).map Int64.toInt).sum

theorem totalCost_cons (s : Located Stmt) (l : List (Located Stmt)) :
    totalCost (s :: l) = ((SkillMeta.sureCost? s.node).map Int64.toInt).getD 0 + totalCost l := by
  unfold totalCost
  rw [List.filterMap_cons]
  cases SkillMeta.sureCost? s.node with
  | none => exact (Int.zero_add _).symm
  | some cost => rfl

/-- No cost is negative. -/
theorem sureCosts_nonneg (l : List (Located Stmt)) :
    ∀ c ∈ l.filterMap fun s => SkillMeta.sureCost? s.node, 0 ≤ c.toInt := by
  intro c hc
  obtain ⟨s, -, hs⟩ := List.mem_filterMap.1 hc
  exact sureCost?_nonneg hs

theorem totalCost_nonneg (l : List (Located Stmt)) : 0 ≤ totalCost l :=
  List.sum_nonneg (List.forall_mem_map.2 (sureCosts_nonneg l))

/-- Statements that take magic openly take the sum of what they surely take, down to zero. -/
theorem toInt_magic_sequence {l : List (Located Stmt)} (h : ∀ s ∈ l, s.node.PaysOpenly)
    (rules : Rules) (hm : 0 ≤ (w.magic b.caster).toInt) :
    ((Step.sequence (stmtSteps l) rules b w).world.magic b.caster).toInt =
      max ((w.magic b.caster).toInt - totalCost l) 0 := by
  induction l generalizing w with
  | nil =>
    show (w.magic b.caster).toInt = max ((w.magic b.caster).toInt - 0) 0
    omega
  | cons s l ih =>
    obtain ⟨stmt, pos⟩ := s
    obtain ⟨hstmt, hrest⟩ := List.forall_mem_cons.1 h
    have hfirst : ((stepOf stmt rules b w).world.magic b.caster).toInt = _ :=
      toInt_magic_stepOf hstmt hm
    have hothers := ih (w := (stepOf stmt rules b w).world) hrest (by omega)
    have htotal := totalCost_nonneg l
    rw [sequence_stmtSteps_cons, totalCost_cons]
    refine hothers.trans ?_
    rw [hfirst]
    dsimp only
    omega

end Script

namespace SkillMeta

/-- A sum that stops at the greatest word is the sum up to it. -/
theorem toInt_foldl_add {costs : List Int64} (h : ∀ c ∈ costs, 0 ≤ c.toInt) {start : Int64}
    (hstart : 0 ≤ start.toInt) : (costs.foldl Saturating.add start).toInt =
      min (start.toInt + (costs.map Int64.toInt).sum) 9223372036854775807 := by
  induction costs generalizing start with
  | nil =>
    have hrange := start.toInt_lt
    rw [List.foldl_nil, List.map_nil, List.sum_nil]
    omega
  | cons c costs ih =>
    obtain ⟨hc, hcosts⟩ := List.forall_mem_cons.1 h
    have hsum : 0 ≤ (costs.map Int64.toInt).sum :=
      List.sum_nonneg (List.forall_mem_map.2 hcosts)
    have hadd := Saturating.toInt_add start c
    rw [List.foldl_cons, ih hcosts (by omega), List.map_cons, List.sum_cons]
    omega

theorem toInt_mpCost (s : Script) :
    (ofScript s).mpCost.toInt = min (Script.totalCost s.stmts) 9223372036854775807 := by
  have hzero : 0 ≤ (0 : Int64).toInt := Int.le_refl 0
  have hsum := toInt_foldl_add (Script.sureCosts_nonneg s.stmts) hzero
  rw [Int64.toInt_zero, Int.zero_add] at hsum
  exact hsum

end SkillMeta

namespace Skill

variable {caster : String} {target : CastTarget} {w : World}

/-- Only a unit that can pay for a skill may cast it. -/
theorem of_validate {s : Skill} (h : s.validate w caster target = .ok ()) :
    ∃ unit, w.unit? caster = some unit ∧ s.declared.mpCost ≤ unit.int Stat.mp := by
  unfold validate at h
  cases hunit : w.unit? caster with
  | none =>
    rw [hunit] at h
    cases h
  | some unit =>
    refine ⟨unit, rfl, Int64.not_lt.1 fun hlt => ?_⟩
    rw [hunit] at h
    dsimp only at h
    -- the checks in front of the one for magic
    split at h
    · cases h
    split at h
    · cases h
    split at h
    · cases h
    cases h

theorem sameMagic_startCooldown (s : Skill) (caster : String) (w : World) :
    w.SameMagic (s.startCooldown caster w) := by
  intro id
  rw [startCooldown]
  split
  · refine Edit.content_apply_of_ne_of_ne_health (e := .set (.unit caster) (Stat.cooldownUntil s.name) _)
      (fun heq => ?_) (fun p heq => ?_)
    · have hname : Stat.mp.toList = (Stat.cooldownUntil s.name).toList :=
        congrArg String.toList (Location.var.inj heq).2
      rw [Stat.cooldownUntil, String.toList_append] at hname
      cases (List.cons.inj hname).1
    · exact absurd (Location.var.inj heq).2 (by decide)
  · rfl

theorem toInt_magic_effect {s : Script} (h : ∀ l ∈ s.stmts, l.node.PaysOpenly) (name caster : String)
    (target : CastTarget) (rules : Rules) (hm : 0 ≤ (w.magic caster).toInt) :
    (((ofScript name s).effect caster target rules w).world.magic caster).toInt =
      max ((w.magic caster).toInt - Script.totalCost s.stmts) 0 := by
  let b : Script.Bindings := { caster, target, metric := (ofScript name s).declared.metric }
  have hcooldown := (sameMagic_startCooldown (ofScript name s) caster w).magic caster
  rw [← hcooldown] at hm ⊢
  have hpaid := Script.toInt_magic_sequence (b := b) h rules hm
  rw [← Script.Step.ofList_eq_sequence] at hpaid
  exact hpaid

/-- A cast that is allowed takes exactly the magic that its skill declares. Of the statements of the
script, those at the top level may take constant amounts of magic, and no other, at whatever depth,
touches magic. -/
theorem magic_effect {s : Script} (h : ∀ l ∈ s.stmts, l.node.PaysOpenly) (name : String)
    (hvalid : (ofScript name s).validate w caster target = .ok ()) (rules : Rules) :
    ∃ unit after, w.unit? caster = some unit ∧
      ((ofScript name s).effect caster target rules w).world.unit? caster = some after ∧
      (after.int Stat.mp).toInt =
        (unit.int Stat.mp).toInt - (ofScript name s).declared.mpCost.toInt := by
  obtain ⟨unit, hunit, hcost⟩ := of_validate hvalid
  rcases (onward_effect name s caster target rules w).unit?_cases caster with
    ⟨hnone, -⟩ | ⟨_, after, -, hafter⟩
  · rw [hunit] at hnone
    cases hnone
  refine ⟨unit, after, hunit, hafter, ?_⟩
  have hdeclared : (ofScript name s).declared.mpCost.toInt =
      min (Script.totalCost s.stmts) 9223372036854775807 := SkillMeta.toInt_mpCost s
  have htotal := Script.totalCost_nonneg s.stmts
  have hrange := (unit.int Stat.mp).toInt_lt
  have hmagic := World.magic_of_unit hunit
  rw [Int64.le_iff_toInt_le] at hcost
  have hmagic_nonneg : 0 ≤ (w.magic caster).toInt := by
    rw [hmagic]
    omega
  have hpaid := toInt_magic_effect h name caster target rules hmagic_nonneg
  rw [World.magic_of_unit hafter, hmagic] at hpaid
  rw [hpaid]
  omega

/-- A script that takes magic, heals, and takes magic again. -/
def toll : Script where
  metas := []
  stmts :=
    [ ⟨.consumeMp (.lit (.int 3)), ⟨1, 1⟩⟩,
      ⟨.repeat (.lit (.int 2)) (.mk true ⟨2, 16⟩ [⟨.heal (.lit (.int 1)) .caster, ⟨2, 18⟩⟩]), ⟨2, 1⟩⟩,
      ⟨.consumeMp (.lit (.int 1)), ⟨3, 1⟩⟩ ]

theorem magic_effect_toll :
    let w := (Edit.set (.unit "ann") Stat.mp (.int 5)).apply arena
    (∀ l ∈ toll.stmts, l.node.PaysOpenly) ∧
      (ofScript "Toll" toll).validate w "ann" .none = .ok () ∧
      ∃ unit after, w.unit? "ann" = some unit ∧
        ((ofScript "Toll" toll).effect "ann" .none {} w).world.unit? "ann" = some after ∧
        (after.int Stat.mp).toInt = (unit.int Stat.mp).toInt - 4 := by
  intro w
  have hopen : ∀ l ∈ toll.stmts, l.node.PaysOpenly := by
    refine List.forall_mem_cons.2 ⟨.inl ⟨_, _, rfl, rfl⟩, List.forall_mem_cons.2 ⟨.inr ?_,
      List.forall_mem_singleton.2 (.inl ⟨_, _, rfl, rfl⟩)⟩⟩
    decide
  have hvalid : (ofScript "Toll" toll).validate w "ann" .none = .ok () := by decide +kernel
  exact ⟨hopen, hvalid, magic_effect hopen "Toll" hvalid {}⟩

end Skill

end Skirmish
