import Skirmish.Action
import Skirmish.Proofs.Course.Combat

/-!
# Courses through actions

Every action takes every unit through a course (`Action.apply_follows`), and so does every list of
actions. Which edits the course must allow is read off the action: `MayEdit` says what an action
edits outright, `edited?` where.
-/

namespace Skirmish

namespace Action

/-- What an action edits outright, apart from what its combat does. -/
inductive MayEdit : Action → Edit → Prop where
  | setVar (place : Place) (name : String) (value : Value) :
      MayEdit (.setVar place name value) (.set place name value)
  | addToVar (account : Account) (name : String) (delta sum : Value) :
      MayEdit (.addToVar account name delta) (.set account.place name sum)
  | removeVar (place : Place) (name : String) :
      MayEdit (.removeVar place name) (.unset place name)
  | addTag (place : Place) (tag : String) : MayEdit (.addTag place tag) (.tag place tag)
  | removeTag (place : Place) (tag : String) : MayEdit (.removeTag place tag) (.untag place tag)
  | move (unit : String) (goal : Coord) :
      MayEdit (.move unit goal) (.set (.unit unit) Stat.position (.coord goal))
  | dash (unit target : String) (maxSteps : Int64) (finish : Coord) :
      MayEdit (.dash unit target maxSteps) (.set (.unit unit) Stat.position (.coord finish))

/-- Where an action edits outright; nowhere if it is damage, a heal, an attack or a line. -/
def edited? : Action → Option Location
  | setVar place name _ | removeVar place name => some (.var place name)
  | addToVar account name _ => some (.var account.place name)
  | addTag place tag | removeTag place tag => some (.tag place tag)
  | move unit _ | dash unit _ _ => some (.var (.unit unit) Stat.position)
  | damage .. | heal .. | strike .. | line _ => none

theorem edited?_of_mayEdit {a : Action} {e : Edit} (h : a.MayEdit e) :
    a.edited? = some e.location := by
  cases h <;> rfl

/-- The actions that only fight: damage, heals, attacks and lines. -/
def isCombat : Action → Bool
  | damage .. | heal .. | strike .. | line _ => true
  | setVar .. | addToVar .. | removeVar .. | addTag .. | removeTag .. | move .. | dash .. => false

theorem edited?_of_isCombat {a : Action} (h : a.isCombat = true) : a.edited? = none := by
  cases a <;> first | rfl | cases h

variable {allowed : Edit → Prop} {rules : Rules} {id : String}

theorem addToVar_follows {account : Account} {name : String} {delta : Value}
    (h : ∀ sum, account.place = .unit id → allowed (.set account.place name sum)) (w : World) :
    Follows allowed rules id w ((addToVar account name delta).apply rules w) := by
  rw [apply]
  cases hbag : w.bag? account.place with
  | none =>
    rw [World.update_of_none hbag]
    exact .nothing w
  | some b =>
    rw [World.update_congr hbag (g := (·.set name (((b.get? name).getD (.int 0)).add delta))) rfl]
    exact .edit (e := .set account.place name _) (h _) (by simp) w

theorem relocate_follows {unit : String} {goal : Coord}
    (h : unit = id → allowed (.set (.unit unit) Stat.position (.coord goal))) (w : World)
    (start : Coord) : Follows allowed rules id w (relocate w unit start goal) := by
  refine .edit (e := .set (.unit unit) Stat.position (.coord goal)) ?_ ?_ w
  · exact fun hplace => h (Place.unit.inj hplace)
  · intro e he
    rw [List.mem_singleton.1 he]
    exact (Option.some_ne_none id).symm

theorem moveTo_follows {unit : String} {goal : Coord}
    (h : unit = id → allowed (.set (.unit unit) Stat.position (.coord goal))) (w : World) :
    Follows allowed rules id w (moveTo w unit goal) := by
  rw [moveTo]
  split
  · split
    · exact .nothing w
    · exact relocate_follows h w _
  · exact .nothing w

theorem dashTowards_follows {unit target : String} {maxSteps : Int64}
    (h : ∀ finish, unit = id → allowed (.set (.unit unit) Stat.position (.coord finish)))
    (w : World) : Follows allowed rules id w (dashTowards w unit target maxSteps) := by
  rw [dashTowards]
  split
  · split
    · exact .nothing w
    · dsimp only
      split
      · exact .nothing w
      · exact relocate_follows (h _) w _
  · exact .nothing w

/-- An action takes every unit through a course that allows what it edits. -/
theorem apply_follows (hcounters : AllowsCounters allowed id) {a : Action}
    (h : ∀ e, a.MayEdit e → e.place = .unit id → allowed e) (w : World) :
    Follows allowed rules id w (a.apply rules w) := by
  cases a with
  | setVar place name value =>
    exact .edit (e := .set place name value) (h _ (.setVar ..)) (by simp) w
  | addToVar account name delta =>
    exact addToVar_follows (fun sum => h _ (.addToVar _ _ _ sum)) w
  | removeVar place name => exact .edit (e := .unset place name) (h _ (.removeVar ..)) (by simp) w
  | addTag place tag => exact .edit (e := .tag place tag) (h _ (.addTag ..)) (by simp) w
  | removeTag place tag => exact .edit (e := .untag place tag) (h _ (.removeTag ..)) (by simp) w
  | damage target amount => exact Combat.damage_follows w target amount
  | heal target amount => exact Combat.heal_follows w target amount
  | strike school attacker target power ignoreRatio =>
    exact Combat.attack_follows hcounters w attacker target _
  | move unit goal =>
    exact moveTo_follows (fun hunit => h _ (.move ..) (congrArg Place.unit hunit)) w
  | dash unit target maxSteps =>
    exact dashTowards_follows
      (fun finish hunit => h _ (.dash _ _ _ finish) (congrArg Place.unit hunit)) w
  | line l =>
    exact .fold (fun victim _ w => Combat.attack_follows hcounters w l.attacker victim _) w

/-- A list of actions that edits none of some variables of a unit outright takes the unit through a
course on which only hits and heals touch them. -/
theorem applyAll_follows (rules : Rules) {names : List String}
    (hnames : ∀ name ∈ names, name ∉ Combat.counters) {actions : List Action}
    (h : ∀ a ∈ actions, ∀ name ∈ names, a.edited? ≠ some (.var (.unit id) name)) (w : World) :
    Follows (Spares id names) rules id w (applyAll rules actions w) := by
  have hcounters : AllowsCounters (Spares id names) id := by
    intro e counter hcounter hlocation name hname he
    have heq : counter = name := (Location.var.inj (hlocation.symm.trans he)).2
    exact hnames name hname (heq ▸ hcounter)
  refine .fold (fun a ha => apply_follows hcounters fun e he _ name hname hlocation => ?_) w
  have hedited := edited?_of_mayEdit he
  rw [hlocation] at hedited
  exact h a ha name hname hedited

/-- Combat edits nothing outright, so it spares all that it does not count in. -/
theorem applyAll_follows_of_isCombat (rules : Rules) {names : List String}
    (hnames : ∀ name ∈ names, name ∉ Combat.counters) {actions : List Action}
    (h : ∀ a ∈ actions, a.isCombat = true) (w : World) :
    Follows (Spares id names) rules id w (applyAll rules actions w) := by
  refine applyAll_follows rules hnames (fun a ha name _ hedited => ?_) w
  rw [edited?_of_isCombat (h a ha)] at hedited
  cases hedited

end Action

end Skirmish
