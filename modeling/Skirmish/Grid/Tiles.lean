import Skirmish.Bag

/-!
# The grid of tiles

A grid has one bag per tile, row by row from the origin. Its size never changes.
-/

namespace Skirmish

/-- A rectangle of tiles. -/
structure TileGrid where
  width : UInt32
  height : UInt32
  cells : Array Bag
  size_cells : cells.size = width.toNat * height.toNat
  deriving DecidableEq

namespace TileGrid

/-- The grid whose tiles are all empty. -/
def filled (width height : UInt32) : TileGrid :=
  { width, height
    cells := Array.replicate (width.toNat * height.toNat) Bag.empty
    size_cells := Array.size_replicate }

def contains (g : TileGrid) (p : Coord) : Bool :=
  decide (0 ≤ p.x.toInt ∧ p.x.toInt < g.width.toNat ∧ 0 ≤ p.y.toInt ∧ p.y.toInt < g.height.toNat)

/-- Where the tile of a place is kept. -/
def index? (g : TileGrid) (p : Coord) : Option Nat :=
  if g.contains p then some (p.y.toInt.toNat * g.width.toNat + p.x.toInt.toNat) else none

/-- The place whose tile is kept at an index. -/
def place (g : TileGrid) (i : Nat) : Coord :=
  ⟨.ofNat (i % g.width.toNat), .ofNat (i / g.width.toNat)⟩

def get? (g : TileGrid) (p : Coord) : Option Bag :=
  (g.index? p).bind (g.cells[·]?)

/-- The grid with the tile at a place replaced; outside the grid nothing changes. -/
def set (g : TileGrid) (p : Coord) (tile : Bag) : TileGrid :=
  match g.index? p with
  | some i =>
    { g with
      cells := g.cells.setIfInBounds i tile
      size_cells := by rw [Array.size_setIfInBounds, g.size_cells] }
  | none => g

/-- All tiles with their places, row by row. -/
def toList (g : TileGrid) : List (Coord × Bag) :=
  g.cells.toList.mapIdx fun i tile => (g.place i, tile)

/-- The tiles that hold something, row by row. -/
def occupied (g : TileGrid) : List (Coord × Bag) :=
  g.toList.filter fun t => t.2 ≠ Bag.empty

/-! ## What a change does to a reading -/

/-- The column and the row of a place on the grid, read off the index of its tile. -/
theorem place_of_index? {g : TileGrid} {p : Coord} {i : Nat} (h : g.index? p = some i) :
    p.x.toInt = (i % g.width.toNat : Nat) ∧ p.y.toInt = (i / g.width.toNat : Nat) := by
  simp only [index?, contains, decide_eq_true_eq, Option.ite_none_right_eq_some,
    Option.some.injEq] at h
  obtain ⟨⟨hx, hxw, hy, -⟩, rfl⟩ := h
  have hw : 0 < g.width.toNat := by omega
  have hlt : p.x.toInt.toNat < g.width.toNat := by omega
  rw [Nat.mul_comm, Nat.mul_add_mod, Nat.mod_eq_of_lt hlt, Nat.mul_add_div hw,
    Nat.div_eq_of_lt hlt]
  omega

/-- The place of an index is the one whose tile is kept there. -/
theorem place_index? {g : TileGrid} {p : Coord} {i : Nat} (h : g.index? p = some i) :
    g.place i = p := by
  obtain ⟨hx, hy⟩ := place_of_index? h
  have hcolumn : Int32.ofNat (i % g.width.toNat) = p.x := by
    rw [← Int32.ofInt_eq_ofNat, ← hx, Int32.ofInt_toInt]
  have hrow : Int32.ofNat (i / g.width.toNat) = p.y := by
    rw [← Int32.ofInt_eq_ofNat, ← hy, Int32.ofInt_toInt]
  rw [place, hcolumn, hrow]

/-- No two places share a tile. -/
theorem index?_inj {g : TileGrid} {p q : Coord} {i : Nat} (hp : g.index? p = some i)
    (hq : g.index? q = some i) : p = q :=
  (place_index? hp).symm.trans (place_index? hq)

theorem eq_of_cells {g h : TileGrid} (hwidth : g.width = h.width) (hheight : g.height = h.height)
    (hcells : g.cells = h.cells) : g = h := by
  obtain ⟨_, _, _, _⟩ := g
  obtain ⟨_, _, _, _⟩ := h
  cases hwidth
  cases hheight
  cases hcells
  rfl

/-- Where tiles are kept depends on the size of a grid only. -/
theorem index?_congr {g h : TileGrid} (hwidth : g.width = h.width)
    (hheight : g.height = h.height) : g.index? = h.index? := by
  obtain ⟨width, height, _, _⟩ := g
  obtain ⟨_, _, _, _⟩ := h
  cases hwidth
  cases hheight
  rfl

/-- Grids of one size are equal if they hold the same at every place and at every index that belongs
to none. -/
theorem eq_of_get? {g h : TileGrid} (hwidth : g.width = h.width) (hheight : g.height = h.height)
    (hget : ∀ p, g.get? p = h.get? p)
    (hbeyond : ∀ i, (∀ p, g.index? p ≠ some i) → g.cells[i]? = h.cells[i]?) : g = h := by
  refine eq_of_cells hwidth hheight (Array.ext_getElem? fun i => ?_)
  by_cases hi : ∃ p, g.index? p = some i
  · obtain ⟨p, hp⟩ := hi
    have hsame := hget p
    rwa [get?, get?, ← index?_congr hwidth hheight, hp] at hsame
  · exact hbeyond i fun p hp => hi ⟨p, hp⟩

@[simp] theorem width_set (g : TileGrid) (p : Coord) (tile : Bag) :
    (g.set p tile).width = g.width := by
  unfold set
  split <;> rfl

@[simp] theorem height_set (g : TileGrid) (p : Coord) (tile : Bag) :
    (g.set p tile).height = g.height := by
  unfold set
  split <;> rfl

theorem getElem?_cells_set (g : TileGrid) (p : Coord) (tile : Bag) (i : Nat) :
    (g.set p tile).cells[i]? =
      if g.index? p = some i ∧ i < g.cells.size then some tile else g.cells[i]? := by
  unfold set
  split
  · next j hj =>
    simp only [hj, Array.getElem?_setIfInBounds, Option.some.injEq]
    grind
  · next hj => simp [hj]

theorem get?_set (g : TileGrid) (p q : Coord) (tile : Bag) :
    (g.set p tile).get? q = if q = p ∧ (g.get? p).isSome then some tile else g.get? q := by
  have hset : (g.set p tile).get? q = (g.index? q).bind fun i => (g.set p tile).cells[i]? := by
    rw [get?, index?_congr (width_set ..) (height_set ..)]
  cases hq : g.index? q with
  | none =>
    have hnone : g.get? q = none := by simp [get?, hq]
    have hne : ¬(q = p ∧ (g.get? p).isSome) := by
      rintro ⟨rfl, hsome⟩
      simp [hnone] at hsome
    rw [hset, hq, hnone, if_neg hne]
    rfl
  | some i =>
    have hcell : g.get? q = g.cells[i]? := by simp [get?, hq]
    rw [hset, hq, Option.bind_some, getElem?_cells_set, hcell]
    by_cases h : q = p
    · subst h
      simp [hq, hcell]
    · have hne : g.index? p ≠ some i := fun hp => h (index?_inj hq hp)
      simp [h, hne]

end TileGrid

end Skirmish
