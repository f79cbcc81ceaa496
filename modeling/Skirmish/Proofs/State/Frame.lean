import Skirmish.Proofs.State.Location

/-!
# The frame of a world

What no change of a bag touches: the clock, the seed, the counter of chance rolls, the size of the
grid and the ids of the units. Worlds in the same frame that hold the same at every location are
equal (`World.eq_of_content`), and the change of a bag stays in the frame
(`World.sameFrame_update`).

A grid may be wider than the columns that a place can name. The tiles out there are no locations,
so the frame says of them that they stay.
-/

namespace Skirmish

namespace World

/-- Worlds with the same turn, seed, size of the grid and unit ids. -/
structure Alike (v w : World) : Prop where
  turn : v.turn = w.turn
  seed : v.seed = w.seed
  width : v.tiles.width = w.tiles.width
  height : v.tiles.height = w.tiles.height
  ids : v.units.names = w.units.names

/-- Worlds that differ in what their bags hold at most. -/
structure SameFrame (v w : World) : Prop extends v.Alike w where
  rolls : v.rolls = w.rolls
  beyond : ∀ i, (∀ p, v.tiles.index? p ≠ some i) → v.tiles.cells[i]? = w.tiles.cells[i]?

namespace Alike

variable {u v w : World}

theorem refl (w : World) : w.Alike w := ⟨rfl, rfl, rfl, rfl, rfl⟩

theorem symm (h : v.Alike w) : w.Alike v :=
  ⟨h.turn.symm, h.seed.symm, h.width.symm, h.height.symm, h.ids.symm⟩

theorem trans (h : u.Alike v) (k : v.Alike w) : u.Alike w :=
  ⟨h.turn.trans k.turn, h.seed.trans k.seed, h.width.trans k.width, h.height.trans k.height,
    h.ids.trans k.ids⟩

theorem index? (h : v.Alike w) : v.tiles.index? = w.tiles.index? :=
  TileGrid.index?_congr h.width h.height

theorem size_cells (h : v.Alike w) : v.tiles.cells.size = w.tiles.cells.size := by
  rw [v.tiles.size_cells, w.tiles.size_cells, h.width, h.height]

theorem inBounds (h : v.Alike w) (p : Coord) : v.inBounds p = w.inBounds p := by
  rw [World.inBounds, World.inBounds, TileGrid.contains, TileGrid.contains, Bool.eq_iff_iff,
    decide_eq_true_eq, decide_eq_true_eq, h.width, h.height]

theorem hasUnit (h : v.Alike w) (id : String) : v.hasUnit id = w.hasUnit id := by
  rw [World.hasUnit, World.hasUnit, Bool.eq_iff_iff, ← NameMap.mem_names_iff, h.ids,
    NameMap.mem_names_iff]

/-- Alike worlds have bags at the same places. -/
theorem isSome_bag? (h : v.Alike w) (p : Place) : (v.bag? p).isSome = (w.bag? p).isSome := by
  cases p with
  | unit id => exact h.hasUnit id
  | tile p =>
    simp only [bag?, tile?, TileGrid.get?, h.index?]
    cases w.tiles.index? p with
    | none => rfl
    | some i =>
      rw [Option.bind_some, Option.bind_some, Bool.eq_iff_iff]
      simp [h.size_cells]
  | global => rfl

/-- A unit is in both of two alike worlds or in neither. -/
theorem unit?_cases (h : v.Alike w) (id : String) :
    (v.unit? id = none ∧ w.unit? id = none) ∨
      ∃ b c, v.unit? id = some b ∧ w.unit? id = some c := by
  have hsome := h.isSome_bag? (.unit id)
  simp only [bag?] at hsome
  cases hv : v.unit? id with
  | none => cases hw : w.unit? id <;> simp_all
  | some b => cases hw : w.unit? id <;> simp_all

theorem unit?_of_none (h : v.Alike w) {id : String} (hv : v.unit? id = none) :
    w.unit? id = none := by
  rcases h.unit?_cases id with ⟨-, hw⟩ | ⟨b, -, hb, -⟩
  · exact hw
  · rw [hv] at hb
    cases hb

end Alike

namespace SameFrame

variable {u v w : World}

theorem refl (w : World) : w.SameFrame w := ⟨.refl w, rfl, fun _ _ => rfl⟩

theorem symm (h : v.SameFrame w) : w.SameFrame v :=
  ⟨h.toAlike.symm, h.rolls.symm, fun i hi => (h.beyond i (by rwa [h.index?])).symm⟩

theorem trans (h : u.SameFrame v) (k : v.SameFrame w) : u.SameFrame w :=
  ⟨h.toAlike.trans k.toAlike, h.rolls.trans k.rolls,
    fun i hi => (h.beyond i hi).trans (k.beyond i (by rwa [← h.index?]))⟩

end SameFrame

/-! ## Equality from the content -/

theorem bag?_eq_of_content {v w : World} (h : v.Alike w)
    (content : ∀ l, v.content l = w.content l) (p : Place) : v.bag? p = w.bag? p := by
  have hsome := h.isSome_bag? p
  cases hv : v.bag? p with
  | none => cases hw : w.bag? p <;> simp_all
  | some b =>
    cases hw : w.bag? p with
    | none => simp_all
    | some c =>
      refine congrArg some (Bag.ext (fun name => ?_) fun name => ?_)
      · simpa [World.content, hv, hw] using content (.var p name)
      · simpa [World.content, hv, hw] using content (.tag p name)

/-- The tiles of worlds in the same frame are equal if those are that a place can name. -/
theorem tiles_eq_of_tile? {v w : World} (h : v.SameFrame w) (tiles : ∀ p, v.tile? p = w.tile? p) :
    v.tiles = w.tiles :=
  TileGrid.eq_of_get? h.width h.height tiles h.beyond

/-- Worlds in the same frame that hold the same at every location are equal. -/
theorem eq_of_content {v w : World} (h : v.SameFrame w)
    (content : ∀ l, v.content l = w.content l) : v = w := by
  have hglobal := bag?_eq_of_content h.toAlike content .global
  have htiles := tiles_eq_of_tile? h fun p => bag?_eq_of_content h.toAlike content (.tile p)
  have hunits : v.units = w.units :=
    NameMap.ext fun id => bag?_eq_of_content h.toAlike content (.unit id)
  have hturn := h.turn
  have hseed := h.seed
  have hrolls := h.rolls
  obtain ⟨_, _, _, _, _, _⟩ := v
  obtain ⟨_, _, _, _, _, _⟩ := w
  simp_all [bag?]

theorem eq_of_bag? {v w : World} (h : v.SameFrame w) (bags : ∀ p, v.bag? p = w.bag? p) :
    v = w := by
  refine eq_of_content h fun l => ?_
  cases l with
  | var place name => rw [content, content, bags]
  | tag place name => rw [content, content, bags]
  | rolls => exact congrArg _ h.rolls

/-! ## Changes of bags -/

end World

/-- A bag as it is kept at a place: a unit without health gets zero. -/
def Place.keep : Place → Bag → Bag
  | unit _, b => if b.contains Stat.hp then b else b.set Stat.hp (.int 0)
  | _, b => b

namespace World

theorem updateUnit_of_none {w : World} {id : String} (h : w.unit? id = none) (f : Bag → Bag) :
    w.updateUnit id f = w := by
  rw [updateUnit, h]

theorem updateUnit_of_some {w : World} {id : String} {b : Bag} (h : w.unit? id = some b)
    (f : Bag → Bag) :
    w.updateUnit id f = { w with units := w.units.insert id ((Place.unit id).keep (f b)) } := by
  rw [updateUnit, h]
  rfl

theorem updateTile_of_none {w : World} {p : Coord} (h : w.tile? p = none) (f : Bag → Bag) :
    w.updateTile p f = w := by
  rw [updateTile, h]

theorem updateTile_of_some {w : World} {p : Coord} {b : Bag} (h : w.tile? p = some b)
    (f : Bag → Bag) : w.updateTile p f = { w with tiles := w.tiles.set p (f b) } := by
  rw [updateTile, h]
  rfl

theorem update_of_none {w : World} {p : Place} (h : w.bag? p = none) (f : Bag → Bag) :
    w.update f p = w := by
  cases p with
  | unit id => exact updateUnit_of_none h f
  | tile p => exact updateTile_of_none h f
  | global => exact absurd h (Option.some_ne_none w.global)

theorem bag?_update (w : World) (f : Bag → Bag) (p q : Place) :
    (w.update f p).bag? q =
      if q = p then (w.bag? p).map fun b => p.keep (f b) else w.bag? q := by
  cases p with
  | unit id =>
    cases hu : w.unit? id with
    | none =>
      rw [update, updateUnit_of_none hu]
      by_cases h : q = .unit id
      · simp [h, bag?, hu]
      · rw [if_neg h]
    | some b =>
      have hget : w.units.get? id = some b := hu
      rw [update, updateUnit_of_some hu]
      cases q with
      | unit id' => simp [bag?, unit?, NameMap.get?_insert, hget]
      | _ => rfl
  | tile p =>
    cases ht : w.tile? p with
    | none =>
      rw [update, updateTile_of_none ht]
      by_cases h : q = .tile p
      · simp [h, bag?, ht]
      · rw [if_neg h]
    | some b =>
      have hget : w.tiles.get? p = some b := ht
      rw [update, updateTile_of_some ht]
      cases q with
      | tile q => simp [bag?, tile?, TileGrid.get?_set, hget, Place.keep]
      | _ => rfl
  | global => cases q <;> rfl

/-- Only what a change does to the bag at hand counts. -/
theorem update_congr {w : World} {p : Place} {b : Bag} (h : w.bag? p = some b) {f g : Bag → Bag}
    (hfg : f b = g b) : w.update f p = w.update g p := by
  cases p with
  | unit id =>
    have hu : w.unit? id = some b := h
    rw [update, update, updateUnit_of_some hu, updateUnit_of_some hu, hfg]
  | tile p =>
    have ht : w.tile? p = some b := h
    rw [update, update, updateTile_of_some ht, updateTile_of_some ht, hfg]
  | global =>
    have hb : w.global = b := Option.some.inj h
    rw [update, update, updateGlobal, updateGlobal, hb, hfg]

theorem sameFrame_update (w : World) (f : Bag → Bag) (p : Place) :
    w.SameFrame (w.update f p) := by
  cases p with
  | unit id =>
    cases hu : w.unit? id with
    | none => rw [update, updateUnit_of_none hu]; exact .refl w
    | some b =>
      rw [update, updateUnit_of_some hu]
      refine ⟨⟨rfl, rfl, rfl, rfl, NameMap.names_eq_of_contains fun id' => ?_⟩, rfl,
        fun _ _ => rfl⟩
      rw [NameMap.contains_insert]
      by_cases h : id' = id
      · have hcontains : w.units.contains id = true := Option.isSome_of_eq_some hu
        simp [h, hcontains]
      · simp [h]
  | tile p =>
    cases ht : w.tile? p with
    | none => rw [update, updateTile_of_none ht]; exact .refl w
    | some b =>
      rw [update, updateTile_of_some ht]
      refine ⟨⟨rfl, rfl, (TileGrid.width_set ..).symm, (TileGrid.height_set ..).symm, rfl⟩, rfl,
        fun i hi => ?_⟩
      rw [TileGrid.getElem?_cells_set, if_neg fun h => hi p h.1]
  | global => exact ⟨⟨rfl, rfl, rfl, rfl, rfl⟩, rfl, fun _ _ => rfl⟩

end World

end Skirmish
