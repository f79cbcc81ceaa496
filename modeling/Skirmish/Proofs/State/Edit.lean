import Skirmish.Proofs.State.Frame

/-!
# Edits

An edit changes one location of a world to a content of its own. A list of edits run on two
comparable worlds leaves every location alike in both or untouched in both
(`Edit.content_run_cases`), and it touches the locations of its edits only
(`Edit.content_run_of_ne`).

There is one exception, the health of a unit that has none: any edit of such a unit sets it to
zero. Comparable worlds have the same units of this kind, and worlds with health have no such unit.
-/

namespace Skirmish

/-- Whether a place is that of a unit. -/
def Place.isUnit : Place → Bool
  | unit _ => true
  | _ => false

theorem Place.get?_keep (p : Place) (b : Bag) (name : String) :
    (p.keep b).get? name =
      if p.isUnit = true ∧ name = Stat.hp then some ((b.get? name).getD (.int 0))
      else b.get? name := by
  cases p with
  | unit id =>
    have hcontains : b.contains Stat.hp = (b.get? Stat.hp).isSome := rfl
    cases hp : b.get? Stat.hp <;> by_cases h : name = Stat.hp <;>
      simp [keep, isUnit, hcontains, hp, h, Bag.get?_set]
  | _ => rfl

theorem Place.hasTag_keep (p : Place) (b : Bag) (name : String) :
    (p.keep b).hasTag name = b.hasTag name := by
  cases p with
  | unit id => by_cases h : b.contains Stat.hp = true <;> simp [keep, h]
  | _ => rfl

/-- In a world with health, only missing units have no health. -/
theorem World.content_health_eq_none_iff {w : World} (h : w.HasHealth) (id : String) :
    w.content (.var (.unit id) Stat.hp) = .value none ↔ w.unit? id = none := by
  cases hu : w.unit? id with
  | none => simp [content, bag?, hu]
  | some b =>
    have hsome : (b.get? Stat.hp).isSome := h id b hu
    obtain ⟨v, hv⟩ := Option.isSome_iff_exists.1 hsome
    simp [content, bag?, hu, hv]

/-- A change of a bag leaves every unit with health. -/
theorem World.HasHealth.update {w : World} (h : w.HasHealth) (f : Bag → Bag) (p : Place) :
    (w.update f p).HasHealth := by
  intro id unit hunit
  have hbag : (w.update f p).bag? (.unit id) = some unit := hunit
  rw [bag?_update] at hbag
  split at hbag
  · next hplace =>
    obtain ⟨b, -, rfl⟩ := Option.map_eq_some_iff.1 hbag
    have hget := Place.get?_keep p (f b) Stat.hp
    rw [← hplace] at hget ⊢
    exact Option.isSome_of_eq_some hget
  · exact h id unit hbag

/-- A change of one variable or tag. -/
inductive Edit where
  | set (place : Place) (name : String) (value : Value)
  | unset (place : Place) (name : String)
  | tag (place : Place) (name : String)
  | untag (place : Place) (name : String)

namespace Edit

def place : Edit → Place
  | set place .. | unset place _ | tag place _ | untag place _ => place

/-- What an edit does to the bag at its place. -/
def onBag : Edit → Bag → Bag
  | set _ name value, b => b.set name value
  | unset _ name, b => b.unset name
  | tag _ name, b => b.tag name
  | untag _ name, b => b.untag name

def location : Edit → Location
  | set place name _ | unset place name => .var place name
  | tag place name | untag place name => .tag place name

/-- What an edit leaves at its location; the health of a unit is never removed. -/
def leaves : Edit → Content
  | set _ _ value => .value (some value)
  | unset place name =>
    .value (if place.isUnit = true ∧ name = Stat.hp then some (.int 0) else none)
  | tag .. => .mark true
  | untag .. => .mark false

def apply (e : Edit) (w : World) : World := w.update e.onBag e.place

/-- Edits one after the other. -/
def run (es : List Edit) (w : World) : World := es.foldl (fun w e => e.apply w) w

@[simp] theorem run_nil (w : World) : run [] w = w := rfl

@[simp] theorem run_cons (e : Edit) (es : List Edit) (w : World) :
    run (e :: es) w = run es (e.apply w) := rfl

theorem run_append (es fs : List Edit) (w : World) : run (es ++ fs) w = run fs (run es w) :=
  List.foldl_append ..

/-! ## One edit -/

theorem content_apply_of_none {e : Edit} {w : World} (h : w.bag? e.place = none) (l : Location) :
    (e.apply w).content l = w.content l := by
  have hbag : ∀ q, (e.apply w).bag? q = w.bag? q := by
    intro q
    rw [apply, World.bag?_update, h]
    split
    · next hq => rw [hq, h, Option.map_none]
    · rfl
  cases l with
  | var place name => rw [World.content, World.content, hbag]
  | tag place name => rw [World.content, World.content, hbag]
  | rolls => exact congrArg _ (World.sameFrame_update ..).rolls.symm

theorem content_apply_location {e : Edit} {w : World} (h : (w.bag? e.place).isSome) :
    (e.apply w).content e.location = e.leaves := by
  obtain ⟨b, hb⟩ := Option.isSome_iff_exists.1 h
  have hbag : (e.apply w).bag? e.place = some (e.place.keep (e.onBag b)) := by
    rw [apply, World.bag?_update, if_pos rfl, hb, Option.map_some]
  cases e with
  | set place name value =>
    simp only [location, World.content, Edit.place] at hbag ⊢
    simp [hbag, Place.get?_keep, onBag, Bag.get?_set, leaves]
  | unset place name =>
    simp only [location, World.content, Edit.place] at hbag ⊢
    simp [hbag, Place.get?_keep, onBag, Bag.get?_unset, leaves]
  | tag place name =>
    simp only [location, World.content, Edit.place] at hbag ⊢
    simp [hbag, Place.hasTag_keep, onBag, Bag.hasTag_tag, leaves]
  | untag place name =>
    simp only [location, World.content, Edit.place] at hbag ⊢
    simp [hbag, Place.hasTag_keep, onBag, Bag.hasTag_untag, leaves]

theorem get?_onBag_of_ne {e : Edit} {name : String} (h : .var e.place name ≠ e.location)
    (b : Bag) : (e.onBag b).get? name = b.get? name := by
  cases e with
  | set place other value =>
    have hne : name ≠ other := fun heq => h (by rw [heq]; rfl)
    simp [onBag, Bag.get?_set, hne]
  | unset place other =>
    have hne : name ≠ other := fun heq => h (by rw [heq]; rfl)
    simp [onBag, Bag.get?_unset, hne]
  | _ => rfl

theorem hasTag_onBag_of_ne {e : Edit} {name : String} (h : .tag e.place name ≠ e.location)
    (b : Bag) : (e.onBag b).hasTag name = b.hasTag name := by
  cases e with
  | tag place other =>
    have hne : name ≠ other := fun heq => h (by rw [heq]; rfl)
    simp [onBag, Bag.hasTag_tag, hne]
  | untag place other =>
    have hne : name ≠ other := fun heq => h (by rw [heq]; rfl)
    simp [onBag, Bag.hasTag_untag, hne]
  | _ => rfl

/-- Another location stays, but for the health of a unit that has none. -/
theorem content_apply_of_ne {e : Edit} {w : World} {l : Location} (hne : l ≠ e.location)
    (h : (w.bag? e.place).isSome) :
    (e.apply w).content l =
      if e.place.isUnit = true ∧ l = .var e.place Stat.hp ∧ w.content l = .value none then
        .value (some (.int 0))
      else w.content l := by
  obtain ⟨b, hb⟩ := Option.isSome_iff_exists.1 h
  have hbag : (e.apply w).bag? e.place = some (e.place.keep (e.onBag b)) := by
    rw [apply, World.bag?_update, if_pos rfl, hb, Option.map_some]
  have helse : ∀ q, q ≠ e.place → (e.apply w).bag? q = w.bag? q := by
    intro q hq
    rw [apply, World.bag?_update, if_neg hq]
  cases l with
  | var q name =>
    by_cases hq : q = e.place
    · subst hq
      have hnew : (e.apply w).content (.var e.place name) = .value
          (if e.place.isUnit = true ∧ name = Stat.hp then some ((b.get? name).getD (.int 0))
            else b.get? name) := by
        rw [World.content, hbag, Option.bind_some, Place.get?_keep, get?_onBag_of_ne hne]
      have hold : w.content (.var e.place name) = .value (b.get? name) := by
        rw [World.content, hb, Option.bind_some]
      rw [hnew, hold]
      cases b.get? name with
      | none => by_cases hhp : e.place.isUnit = true ∧ name = Stat.hp <;> simp [hhp]
      | some value => simp
    · simp [World.content, helse q hq, hq]
  | tag q name =>
    by_cases hq : q = e.place
    · subst hq
      simp [World.content, hbag, hb, Place.hasTag_keep, hasTag_onBag_of_ne hne]
    · simp [World.content, helse q hq]
  | rolls =>
    have hrolls : (e.apply w).rolls = w.rolls := (World.sameFrame_update ..).rolls.symm
    simp [World.content, hrolls]

/-- Health that a unit lacks is filled in after any number of edits as well as after each. -/
theorem keep_onBag_keep (e : Edit) (p : Place) (b : Bag) :
    p.keep (e.onBag (p.keep b)) = p.keep (e.onBag b) := by
  refine Bag.ext (fun name => ?_) fun name => ?_
  · rw [Place.get?_keep, Place.get?_keep]
    cases e <;> simp only [onBag, Bag.get?_set, Bag.get?_unset, Bag.get?_tag, Bag.get?_untag,
      Place.get?_keep] <;> grind
  · rw [Place.hasTag_keep, Place.hasTag_keep]
    cases e <;> simp only [onBag, Bag.hasTag_set, Bag.hasTag_unset, Bag.hasTag_tag,
      Bag.hasTag_untag, Place.hasTag_keep]

/-- An edit after a change of the bag at its place is one change. -/
theorem apply_update (e : Edit) (w : World) (f : Bag → Bag) :
    e.apply (w.update f e.place) = w.update (fun b => e.onBag (f b)) e.place := by
  have hframe := (World.sameFrame_update w f e.place).trans
    (World.sameFrame_update _ e.onBag e.place)
  refine World.eq_of_bag? (hframe.symm.trans (World.sameFrame_update ..)) fun q => ?_
  simp only [apply, World.bag?_update, if_pos, Option.map_map]
  by_cases hq : q = e.place
  · simp [hq, Function.comp_def, keep_onBag_keep]
  · simp [hq]

theorem sameFrame_apply (e : Edit) (w : World) : w.SameFrame (e.apply w) :=
  World.sameFrame_update ..

theorem hasHealth_apply {w : World} (h : w.HasHealth) (e : Edit) : (e.apply w).HasHealth :=
  h.update e.onBag e.place

theorem content_apply_of_ne_of_hasHealth {e : Edit} {w : World} {l : Location}
    (hne : l ≠ e.location) (h : w.HasHealth) : (e.apply w).content l = w.content l := by
  cases hb : w.bag? e.place with
  | none => exact content_apply_of_none hb l
  | some b =>
    rw [content_apply_of_ne hne (Option.isSome_of_eq_some hb), if_neg]
    rintro ⟨hunit, rfl, hnone⟩
    cases hp : e.place with
    | unit id =>
      rw [hp] at hb hnone
      rw [World.content_health_eq_none_iff h] at hnone
      simp [World.bag?, hnone] at hb
    | _ => simp [hp, Place.isUnit] at hunit

/-- What is not health stays even where a unit lacks health. -/
theorem content_apply_of_ne_of_ne_health {e : Edit} {w : World} {l : Location}
    (hne : l ≠ e.location) (hl : ∀ p, l ≠ .var p Stat.hp) : (e.apply w).content l = w.content l := by
  cases hb : w.bag? e.place with
  | none => exact content_apply_of_none hb l
  | some b =>
    rw [content_apply_of_ne hne (Option.isSome_of_eq_some hb), if_neg]
    exact fun h => hl e.place h.2.1

end Edit

/-! ## Comparable worlds -/

namespace World

/-- Alike worlds in which the same units lack health. -/
structure Comparable (v w : World) : Prop extends v.Alike w where
  bare : ∀ id, v.content (.var (.unit id) Stat.hp) = .value none ↔
    w.content (.var (.unit id) Stat.hp) = .value none

theorem Comparable.refl (w : World) : w.Comparable w := ⟨.refl w, fun _ => Iff.rfl⟩

theorem Comparable.of_hasHealth {v w : World} (h : v.Alike w) (hv : v.HasHealth)
    (hw : w.HasHealth) : v.Comparable w := by
  refine ⟨h, fun id => ?_⟩
  rw [content_health_eq_none_iff hv, content_health_eq_none_iff hw]
  rcases h.unit?_cases id with ⟨hnv, hnw⟩ | ⟨b, c, hsv, hsw⟩
  · simp [hnv, hnw]
  · simp [hsv, hsw]

end World

namespace Edit

variable {v w : World}

/-- An edit leaves every location alike in two comparable worlds or untouched in both. -/
theorem content_apply_cases (h : v.Comparable w) (e : Edit) (l : Location) :
    (e.apply v).content l = (e.apply w).content l ∨
      ((e.apply v).content l = v.content l ∧ (e.apply w).content l = w.content l) := by
  have hsome := h.isSome_bag? e.place
  cases hv : v.bag? e.place with
  | none =>
    have hw : w.bag? e.place = none := by simpa [hv] using hsome
    exact .inr ⟨content_apply_of_none hv l, content_apply_of_none hw l⟩
  | some b =>
    have hv' : (v.bag? e.place).isSome := Option.isSome_of_eq_some hv
    have hw' : (w.bag? e.place).isSome := hsome ▸ hv'
    by_cases hl : l = e.location
    · left
      rw [hl, content_apply_location hv', content_apply_location hw']
    · rw [content_apply_of_ne hl hv', content_apply_of_ne hl hw']
      by_cases hhp : e.place.isUnit = true ∧ l = .var e.place Stat.hp
      · obtain ⟨hunit, rfl⟩ := hhp
        have hbare : v.content (.var e.place Stat.hp) = .value none ↔
            w.content (.var e.place Stat.hp) = .value none := by
          cases hp : e.place with
          | unit id => exact h.bare id
          | _ => simp [hp, Place.isUnit] at hunit
        by_cases hnone : v.content (.var e.place Stat.hp) = .value none
        · left
          rw [if_pos ⟨hunit, rfl, hnone⟩, if_pos ⟨hunit, rfl, hbare.1 hnone⟩]
        · right
          rw [if_neg fun hp => hnone hp.2.2, if_neg fun hp => hnone (hbare.2 hp.2.2)]
          exact ⟨rfl, rfl⟩
      · right
        rw [if_neg fun hp => hhp ⟨hp.1, hp.2.1⟩, if_neg fun hp => hhp ⟨hp.1, hp.2.1⟩]
        exact ⟨rfl, rfl⟩

theorem comparable_apply (h : v.Comparable w) (e : Edit) :
    (e.apply v).Comparable (e.apply w) := by
  have halike : (e.apply v).Alike (e.apply w) :=
    (sameFrame_apply e v).symm.toAlike.trans (h.toAlike.trans (sameFrame_apply e w).toAlike)
  refine ⟨halike, fun id => ?_⟩
  rcases content_apply_cases h e (.var (.unit id) Stat.hp) with hsame | ⟨hv, hw⟩
  · rw [hsame]
  · rw [hv, hw, h.bare]

/-! ## Lists of edits -/

theorem sameFrame_run (es : List Edit) (w : World) : w.SameFrame (run es w) := by
  induction es generalizing w with
  | nil => exact .refl w
  | cons e es ih => exact (sameFrame_apply e w).trans (ih (e.apply w))

theorem hasHealth_run {w : World} (h : w.HasHealth) (es : List Edit) : (run es w).HasHealth := by
  induction es generalizing w with
  | nil => exact h
  | cons e es ih => exact ih (hasHealth_apply h e)

theorem comparable_run (h : v.Comparable w) (es : List Edit) :
    (run es v).Comparable (run es w) := by
  induction es generalizing v w with
  | nil => exact h
  | cons e es ih => exact ih (comparable_apply h e)

/-- Edits leave every location alike in two comparable worlds or untouched in both. -/
theorem content_run_cases (h : v.Comparable w) (es : List Edit) (l : Location) :
    (run es v).content l = (run es w).content l ∨
      ((run es v).content l = v.content l ∧ (run es w).content l = w.content l) := by
  induction es generalizing v w with
  | nil => exact .inr ⟨rfl, rfl⟩
  | cons e es ih =>
    rw [run_cons, run_cons]
    rcases ih (comparable_apply h e) with hsame | ⟨hv, hw⟩
    · exact .inl hsame
    · -- what the later edits left untouched, the first one made alike or left untouched
      rw [hv, hw]
      exact content_apply_cases h e l

/-- Edits do not touch a location that is not theirs. -/
theorem content_run_of_ne {es : List Edit} {l : Location} (hne : ∀ e ∈ es, l ≠ e.location)
    (h : w.HasHealth) : (run es w).content l = w.content l := by
  induction es generalizing w with
  | nil => rfl
  | cons e es ih =>
    rw [run_cons, ih (fun f hf => hne f (List.mem_cons_of_mem e hf)) (hasHealth_apply h e)]
    exact content_apply_of_ne_of_hasHealth (hne e List.mem_cons_self) h

theorem content_run_of_ne_of_ne_health {es : List Edit} {l : Location}
    (hne : ∀ e ∈ es, l ≠ e.location) (hl : ∀ p, l ≠ .var p Stat.hp) (w : World) :
    (run es w).content l = w.content l := by
  induction es generalizing w with
  | nil => rfl
  | cons e es ih =>
    rw [run_cons, ih fun f hf => hne f (List.mem_cons_of_mem e hf)]
    exact content_apply_of_ne_of_ne_health (hne e List.mem_cons_self) hl

end Edit

end Skirmish
