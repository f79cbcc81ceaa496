import Mathlib.Algebra.Group.Nat.Defs
import Mathlib.Data.List.Induction
import Skirmish.Grid.Tiles

/-!
# The tiles of a grid

The index of a tile is worked out from its place and the place from the index. Each undoes the other
as long as places can name all columns and rows (`TileGrid.index?_place_iff`,
`TileGrid.place_index?`), and then the listing of the tiles goes through the places row by row.

So a grid holds at each of its places what was put there last (`TileGrid.get?_built`) and lists just
that (`TileGrid.built_exact`), and the tiles that hold something are enough to build it again
(`TileGrid.Nameable.built_occupied`).
-/

namespace Skirmish

namespace Coord

/-- A place in one of the first columns and one of the first rows, counted from the origin. -/
def Within (p : Coord) (width height : UInt32) : Prop :=
  (0 ≤ p.x.toInt ∧ p.x.toInt < width.toNat) ∧ 0 ≤ p.y.toInt ∧ p.y.toInt < height.toNat

instance (p : Coord) (width height : UInt32) : Decidable (p.Within width height) :=
  inferInstanceAs (Decidable (_ ∧ _))

theorem toNat_toUInt32 {n : Int32} (h : 0 ≤ n.toInt) : n.toUInt32.toNat = n.toInt.toNat :=
  Int32.toNat_toUInt32_of_le (Int32.le_iff_toInt_le.2 h)

/-- A column or row that is not negative may be compared without its sign. -/
theorem within_iff_word {p : Coord} {width height : UInt32} :
    p.Within width height ↔
      0 ≤ p.x ∧ 0 ≤ p.y ∧ p.x.toUInt32 < width ∧ p.y.toUInt32 < height := by
  rw [Within, Int32.le_iff_toInt_le, Int32.le_iff_toInt_le, UInt32.lt_iff_toNat_lt,
    UInt32.lt_iff_toNat_lt]
  show _ ↔ 0 ≤ p.x.toInt ∧ 0 ≤ p.y.toInt ∧ _
  by_cases hx : 0 ≤ p.x.toInt
  · by_cases hy : 0 ≤ p.y.toInt
    · rw [toNat_toUInt32 hx, toNat_toUInt32 hy]
      omega
    · simp [hy]
  · simp [hx]

/-- Row by row: a place comes before those of later rows and those further on in its own row. -/
def Before (p q : Coord) : Prop := p.y < q.y ∨ p.y = q.y ∧ p.x < q.x

instance (p q : Coord) : Decidable (p.Before q) :=
  inferInstanceAs (Decidable (_ ∨ _))

theorem not_before_self (p : Coord) : ¬p.Before p := by
  simp [Before]

end Coord

namespace TileGrid

variable {g h : TileGrid} {p : Coord} {tile : Bag} {i j : Nat}

/-! ## Places and indices -/

theorem contains_iff : g.contains p = true ↔ p.Within g.width g.height := by
  rw [contains, decide_eq_true_eq, Coord.Within, and_assoc]

theorem index?_of_within (h : p.Within g.width g.height) :
    g.index? p = some (p.y.toInt.toNat * g.width.toNat + p.x.toInt.toNat) :=
  if_pos (contains_iff.2 h)

theorem index?_of_not_within (h : ¬p.Within g.width g.height) : g.index? p = none :=
  if_neg fun hcontains => h (contains_iff.1 hcontains)

/-- The tile of a place on the grid is among those that are kept. -/
theorem index?_lt (h : g.index? p = some i) : i < g.cells.size := by
  by_cases hp : p.Within g.width g.height
  · obtain ⟨⟨hx, hxw⟩, hy, hyh⟩ := hp
    rw [index?_of_within ⟨⟨hx, hxw⟩, hy, hyh⟩, Option.some.injEq] at h
    have hcolumn : p.x.toInt.toNat < g.width.toNat := by omega
    have hrow : p.y.toInt.toNat + 1 ≤ g.height.toNat := by omega
    calc
      i = p.y.toInt.toNat * g.width.toNat + p.x.toInt.toNat := h.symm
      _ < p.y.toInt.toNat * g.width.toNat + g.width.toNat := Nat.add_lt_add_left hcolumn _
      _ = (p.y.toInt.toNat + 1) * g.width.toNat := (Nat.succ_mul ..).symm
      _ ≤ g.height.toNat * g.width.toNat := Nat.mul_le_mul_right _ hrow
      _ = g.cells.size := by rw [Nat.mul_comm, g.size_cells]
  · rw [index?_of_not_within hp] at h
    cases h

theorem column_lt (hi : i < g.cells.size) : i % g.width.toNat < g.width.toNat := by
  rw [g.size_cells] at hi
  exact Nat.mod_lt _ (Nat.pos_of_mul_pos_right (Nat.zero_lt_of_lt hi))

theorem row_lt (hi : i < g.cells.size) : i / g.width.toNat < g.height.toNat :=
  Nat.div_lt_of_lt_mul (g.size_cells ▸ hi)

/-- A tile is kept at the index of its place just if places can name its column and its row. -/
theorem index?_place_iff (hi : i < g.cells.size) :
    g.index? (g.place i) = some i ↔ i % g.width.toNat < 2 ^ 31 ∧ i / g.width.toNat < 2 ^ 31 := by
  constructor
  · intro h
    obtain ⟨hx, hy⟩ := place_of_index? h
    have hxlt := (g.place i).x.toInt_lt
    have hylt := (g.place i).y.toInt_lt
    omega
  · rintro ⟨hcolumn, hrow⟩
    have hx : (g.place i).x.toInt = (i % g.width.toNat : Nat) := Int32.toInt_ofNat_of_lt hcolumn
    have hy : (g.place i).y.toInt = (i / g.width.toNat : Nat) := Int32.toInt_ofNat_of_lt hrow
    have hwithin : (g.place i).Within g.width g.height := by
      rw [Coord.Within, hx, hy]
      exact ⟨⟨Int.natCast_nonneg _, Int.ofNat_lt.2 (column_lt hi)⟩, Int.natCast_nonneg _,
        Int.ofNat_lt.2 (row_lt hi)⟩
    rw [index?_of_within hwithin, hx, hy, Int.toNat_natCast, Int.toNat_natCast, Nat.div_add_mod']

/-- No two tiles of a grid are at one place. -/
theorem place_inj (hi : i < g.cells.size) (hj : j < g.cells.size) (h : g.place i = g.place j) :
    i = j := by
  have hword : ∀ {m n : Nat}, m < UInt32.size → n < UInt32.size →
      Int32.ofNat m = Int32.ofNat n → m = n := by
    intro m n hm hn hmn
    have hmod : m % UInt32.size = n % UInt32.size :=
      congrArg (fun x : Int32 => x.toUInt32.toNat) hmn
    rwa [Nat.mod_eq_of_lt hm, Nat.mod_eq_of_lt hn] at hmod
  have hcolumn : ∀ {k}, k < g.cells.size → k % g.width.toNat < UInt32.size := fun hk =>
    Nat.lt_trans (column_lt hk) g.width.toNat_lt
  have hrow : ∀ {k}, k < g.cells.size → k / g.width.toNat < UInt32.size := fun hk =>
    Nat.lt_trans (row_lt hk) g.height.toNat_lt
  obtain ⟨hx, hy⟩ := Coord.mk.inj h
  have hmod := hword (hcolumn hi) (hcolumn hj) hx
  have hdiv := hword (hrow hi) (hrow hj) hy
  rw [← Nat.div_add_mod i g.width.toNat, ← Nat.div_add_mod j g.width.toNat, hmod, hdiv]

/-- The index of a tile can be worked out in words: neither the product nor the sum leaves its
range. -/
theorem index?_eq_word (g : TileGrid) (p : Coord) :
    g.index? p =
      if 0 ≤ p.x ∧ 0 ≤ p.y ∧ p.x.toUInt32 < g.width ∧ p.y.toUInt32 < g.height then
        some (p.y.toUInt32.toUInt64 * g.width.toUInt64 + p.x.toUInt32.toUInt64).toNat
      else none := by
  by_cases h : p.Within g.width g.height
  · have hlt := index?_lt (index?_of_within h)
    rw [g.size_cells] at hlt
    have hroom : g.width.toNat * g.height.toNat ≤ 2 ^ 32 * 2 ^ 32 :=
      Nat.mul_le_mul (Nat.le_of_lt g.width.toNat_lt) (Nat.le_of_lt g.height.toNat_lt)
    have hfit : p.y.toInt.toNat * g.width.toNat + p.x.toInt.toNat < 2 ^ 64 := by omega
    rw [index?_of_within h, if_pos (Coord.within_iff_word.1 h), UInt64.toNat_add, UInt64.toNat_mul,
      UInt32.toNat_toUInt64, UInt32.toNat_toUInt64, UInt32.toNat_toUInt64,
      Coord.toNat_toUInt32 h.1.1, Coord.toNat_toUInt32 h.2.1, Nat.mod_add_mod,
      Nat.mod_eq_of_lt hfit]
  · rw [index?_of_not_within h, if_neg (mt Coord.within_iff_word.2 h)]

/-! ## Readings -/

theorem isSome_get?_iff : (g.get? p).isSome = true ↔ p.Within g.width g.height := by
  constructor
  · intro h
    by_contra hp
    rw [get?, index?_of_not_within hp] at h
    cases h
  · intro hp
    have hindex := index?_of_within hp
    rw [get?, hindex, Option.bind_some, Array.getElem?_eq_getElem (index?_lt hindex)]
    rfl

theorem get?_of_not_within (h : ¬p.Within g.width g.height) : g.get? p = none :=
  Option.not_isSome_iff_eq_none.1 fun hsome => h (isSome_get?_iff.1 hsome)

theorem get?_filled (width height : UInt32) (p : Coord) :
    (filled width height).get? p = if p.Within width height then some .empty else none := by
  split
  · next hp =>
    have hsome : ((filled width height).get? p).isSome = true := isSome_get?_iff.2 hp
    obtain ⟨tile, htile⟩ := Option.isSome_iff_exists.1 hsome
    obtain ⟨i, -, hi⟩ := Option.bind_eq_some_iff.1 htile
    rw [htile, Array.eq_of_mem_replicate (Array.mem_of_getElem? hi)]
  · next hp => exact get?_of_not_within hp

/-! ## Listings -/

theorem mem_toList_iff : (p, tile) ∈ g.toList ↔ ∃ i, g.cells[i]? = some tile ∧ g.place i = p := by
  simp only [toList, List.mem_mapIdx, Prod.mk.injEq]
  constructor
  · rintro ⟨i, hi, hplace, htile⟩
    exact ⟨i, Array.getElem?_eq_some_iff.2 ⟨hi, htile⟩, hplace⟩
  · rintro ⟨i, htile, hplace⟩
    obtain ⟨hi, htile⟩ := Array.getElem?_eq_some_iff.1 htile
    exact ⟨i, hi, hplace, htile⟩

theorem map_fst_toList (g : TileGrid) :
    g.toList.map Prod.fst = (List.range g.cells.size).map g.place := by
  refine List.ext_getElem (by simp [toList]) fun i _ _ => ?_
  simp [toList]

theorem mem_occupied_iff : (p, tile) ∈ g.occupied ↔ (p, tile) ∈ g.toList ∧ tile ≠ .empty := by
  rw [occupied, List.mem_filter, decide_eq_true_eq]

/-- A tile that holds something is the same in all grids with the same size and the same tiles that
hold something. -/
theorem getElem?_of_occupied (hwidth : g.width = h.width) (hheight : g.height = h.height)
    (hoccupied : g.occupied = h.occupied) (htile : g.cells[i]? = some tile)
    (hne : tile ≠ .empty) : h.cells[i]? = some tile := by
  have hplace : h.place = g.place := by
    funext j
    rw [place, place, hwidth]
  have hsize : g.cells.size = h.cells.size := by rw [g.size_cells, h.size_cells, hwidth, hheight]
  have hmem : (g.place i, tile) ∈ h.occupied :=
    hoccupied ▸ mem_occupied_iff.2 ⟨mem_toList_iff.2 ⟨i, htile, rfl⟩, hne⟩
  obtain ⟨j, hj, hij⟩ := mem_toList_iff.1 (mem_occupied_iff.1 hmem).1
  obtain ⟨hi, -⟩ := Array.getElem?_eq_some_iff.1 htile
  obtain ⟨hj', -⟩ := Array.getElem?_eq_some_iff.1 hj
  rw [hplace] at hij
  rwa [place_inj (hsize ▸ hj') hi hij] at hj

/-- The tiles that hold something tell all tiles of a grid. -/
theorem eq_of_occupied (hwidth : g.width = h.width) (hheight : g.height = h.height)
    (hoccupied : g.occupied = h.occupied) : g = h := by
  have hsize : g.cells.size = h.cells.size := by rw [g.size_cells, h.size_cells, hwidth, hheight]
  refine eq_of_cells hwidth hheight (Array.ext hsize fun i hi hi' => ?_)
  -- A tile that holds something in one of the grids is found in the other.
  by_cases hg : g.cells[i] = .empty
  · by_cases hh : h.cells[i] = .empty
    · rw [hg, hh]
    · have hsame := getElem?_of_occupied hwidth.symm hheight.symm hoccupied.symm
        (Array.getElem?_eq_getElem hi') hh
      rw [Array.getElem?_eq_getElem hi] at hsame
      exact Option.some.inj hsame
  · have hsame := getElem?_of_occupied hwidth hheight hoccupied (Array.getElem?_eq_getElem hi) hg
    rw [Array.getElem?_eq_getElem hi'] at hsame
    exact (Option.some.inj hsame).symm

/-! ## Grids whose tiles all have a place -/

/-- Places can name all columns and all rows of a grid. -/
def Nameable (g : TileGrid) : Prop := g.width.toNat ≤ 2 ^ 31 ∧ g.height.toNat ≤ 2 ^ 31

namespace Nameable

theorem index?_place (hg : g.Nameable) (hi : i < g.cells.size) : g.index? (g.place i) = some i :=
  (index?_place_iff hi).2
    ⟨Nat.lt_of_lt_of_le (column_lt hi) hg.1, Nat.lt_of_lt_of_le (row_lt hi) hg.2⟩

/-- The readings of a grid tell its tiles. -/
theorem ext (hg : g.Nameable) (hwidth : g.width = h.width) (hheight : g.height = h.height)
    (hget : ∀ p, g.get? p = h.get? p) : g = h := by
  refine eq_of_get? hwidth hheight hget fun i hbeyond => ?_
  have hi : g.cells.size ≤ i :=
    Nat.le_of_not_lt fun hi => hbeyond (g.place i) (hg.index?_place hi)
  have hi' : h.cells.size ≤ i := by rwa [h.size_cells, ← hwidth, ← hheight, ← g.size_cells]
  rw [Array.getElem?_eq_none hi, Array.getElem?_eq_none hi']

theorem mem_toList_iff_get? (hg : g.Nameable) : (p, tile) ∈ g.toList ↔ g.get? p = some tile := by
  rw [mem_toList_iff]
  constructor
  · rintro ⟨i, htile, rfl⟩
    have hi : i < g.cells.size := (Array.getElem?_eq_some_iff.1 htile).1
    rw [get?, hg.index?_place hi, Option.bind_some, htile]
  · intro h
    obtain ⟨i, hindex, htile⟩ := Option.bind_eq_some_iff.1 h
    exact ⟨i, htile, place_index? hindex⟩

/-- The row is what indices count first. -/
theorem place_before (hg : g.Nameable) (hij : i < j) (hj : j < g.cells.size) :
    (g.place i).Before (g.place j) := by
  obtain ⟨hix, hiy⟩ := place_of_index? (hg.index?_place (Nat.lt_trans hij hj))
  obtain ⟨hjx, hjy⟩ := place_of_index? (hg.index?_place hj)
  rw [Coord.Before, Int32.lt_iff_toInt_lt, Int32.lt_iff_toInt_lt, ← Int32.toInt_inj, hix, hiy, hjx,
    hjy, Int.ofNat_lt, Int.ofNat_lt, Int.ofNat_inj]
  have hrows : i / g.width.toNat ≤ j / g.width.toNat := Nat.div_le_div_right (Nat.le_of_lt hij)
  rcases Nat.lt_or_eq_of_le hrows with hrow | hrow
  · exact .inl hrow
  · -- In one row the columns are as far apart as the indices.
    have hi := Nat.div_add_mod i g.width.toNat
    have hj := Nat.div_add_mod j g.width.toNat
    rw [hrow] at hi
    exact .inr ⟨hrow, by omega⟩

theorem pairwise_before (hg : g.Nameable) : (g.toList.map Prod.fst).Pairwise Coord.Before := by
  rw [map_fst_toList, List.pairwise_map]
  exact List.pairwise_lt_range.imp_of_mem fun _ hj hij => hg.place_before hij (List.mem_range.1 hj)

theorem mem_places_iff (hg : g.Nameable) :
    p ∈ g.toList.map Prod.fst ↔ p.Within g.width g.height := by
  rw [List.mem_map, ← isSome_get?_iff, Option.isSome_iff_exists]
  constructor
  · rintro ⟨⟨_, tile⟩, hmem, rfl⟩
    exact ⟨tile, hg.mem_toList_iff_get?.1 hmem⟩
  · rintro ⟨tile, htile⟩
    exact ⟨(p, tile), hg.mem_toList_iff_get?.2 htile, rfl⟩

theorem count_places (hg : g.Nameable) (p : Coord) :
    (g.toList.map Prod.fst).count p = if p.Within g.width g.height then 1 else 0 := by
  have hnodup : (g.toList.map Prod.fst).Nodup := by
    refine List.nodup_iff_pairwise_ne.2 (hg.pairwise_before.imp ?_)
    rintro p _ hbefore rfl
    exact p.not_before_self hbefore
  rw [hnodup.count]
  simp only [hg.mem_places_iff]

/-- What is read at a place can be looked up among the tiles that hold something. -/
theorem getD_lookup_occupied (hg : g.Nameable) (h : g.get? p = some tile) :
    (g.occupied.reverse.lookup p).getD .empty = tile := by
  cases hlast : g.occupied.reverse.lookup p with
  | none =>
    by_contra hne
    have hmem : (p, tile) ∈ g.occupied :=
      mem_occupied_iff.2 ⟨hg.mem_toList_iff_get?.2 h, Ne.symm hne⟩
    simpa using List.lookup_eq_none_iff.1 hlast (p, tile) (List.mem_reverse.2 hmem)
  | some last =>
    obtain ⟨before, after, hsplit, -⟩ := List.lookup_eq_some_iff.1 hlast
    have hmem : (p, last) ∈ g.occupied := by
      rw [← List.mem_reverse, hsplit]
      exact List.mem_append_right _ (List.mem_cons_self ..)
    have hget := hg.mem_toList_iff_get?.1 (mem_occupied_iff.1 hmem).1
    exact Option.some.inj (hget.symm.trans h)

end Nameable

/-! ## Grids as they are built -/

/-- An empty grid with tiles put on it one after another. -/
def built (width height : UInt32) (puts : List (Coord × Bag)) : TileGrid :=
  puts.foldl (fun g put => g.set put.1 put.2) (filled width height)

variable (width height : UInt32) (puts : List (Coord × Bag))

theorem built_concat (p : Coord) (tile : Bag) :
    built width height (puts ++ [(p, tile)]) = (built width height puts).set p tile := by
  rw [built, List.foldl_append]
  rfl

theorem size_built :
    (built width height puts).width = width ∧ (built width height puts).height = height := by
  induction puts using List.reverseRecOn with
  | nil => exact ⟨rfl, rfl⟩
  | append_singleton puts put ih => rwa [built_concat, width_set, height_set]

variable {width height} in
theorem nameable_built (hwidth : width.toNat ≤ 2 ^ 31) (hheight : height.toNat ≤ 2 ^ 31) :
    (built width height puts).Nameable := by
  obtain ⟨hw, hh⟩ := size_built width height puts
  rw [Nameable, hw, hh]
  exact ⟨hwidth, hheight⟩

/-- A place of the grid holds what was put there last, and nothing if nothing was. -/
theorem get?_built (p : Coord) :
    (built width height puts).get? p =
      if p.Within width height then some ((puts.reverse.lookup p).getD .empty) else none := by
  -- On the tile put last: what it hides and what it leaves is read off the grid before it.
  induction puts using List.reverseRecOn generalizing p with
  | nil => exact get?_filled width height p
  | append_singleton puts put ih =>
    obtain ⟨q, tile⟩ := put
    rw [built_concat, get?_set, ih, ih, List.reverse_concat, List.lookup_cons]
    by_cases hp : p = q
    · subst hp
      by_cases hwithin : p.Within width height <;> simp [hwithin]
    · simp [hp, beq_false_of_ne hp]

/-- The tiles that hold something are enough to build a grid again. -/
theorem Nameable.built_occupied (hg : g.Nameable) : built g.width g.height g.occupied = g := by
  obtain ⟨hwidth, hheight⟩ := size_built g.width g.height g.occupied
  refine (hg.ext hwidth.symm hheight.symm fun p => ?_).symm
  rw [get?_built]
  split
  · next hp =>
    obtain ⟨tile, htile⟩ := Option.isSome_iff_exists.1 (isSome_get?_iff.2 hp)
    rw [hg.getD_lookup_occupied htile, htile]
  · next hp => exact get?_of_not_within hp

/-- A grid has a tile just at its places, a tile that is put changes what is read at its own place
only, and the listing of the tiles goes through the places once each, row by row, with what is read
there. -/
theorem built_exact {width height : UInt32} (hwidth : width.toNat ≤ 2 ^ 31)
    (hheight : height.toNat ≤ 2 ^ 31) (puts : List (Coord × Bag)) :
    let g := built width height puts
    (∀ p, (g.get? p).isSome = true ↔ p.Within width height) ∧
    (∀ p q tile, (g.set p tile).get? q =
      if q = p ∧ p.Within width height then some tile else g.get? q) ∧
    (∀ p, (g.toList.map Prod.fst).count p = if p.Within width height then 1 else 0) ∧
    (g.toList.map Prod.fst).Pairwise Coord.Before ∧
    ∀ p tile, (p, tile) ∈ g.toList ↔ g.get? p = some tile := by
  intro g
  obtain ⟨hw, hh⟩ := size_built width height puts
  have hg : g.Nameable := nameable_built puts hwidth hheight
  have hsome : ∀ p, (g.get? p).isSome = true ↔ p.Within width height := by
    intro p
    rw [isSome_get?_iff, hw, hh]
  refine ⟨hsome, fun p q tile => ?_, fun p => ?_, hg.pairwise_before, fun p tile => ?_⟩
  · simp only [get?_set, hsome]
  · rw [hg.count_places, hw, hh]
  · exact hg.mem_toList_iff_get?

/-- Three columns and two rows: a tile is put in the last corner, and one off the grid. -/
theorem built_exact_lava :
    let lava := Bag.empty.withAll [("lava", .bool true)] []
    let g := built 3 2 [(⟨2, 1⟩, lava), (⟨5, 0⟩, lava)]
    ((3 : UInt32).toNat ≤ 2 ^ 31 ∧ (2 : UInt32).toNat ≤ 2 ^ 31) ∧
      (g.get? ⟨5, 0⟩).isSome = false ∧
      (g.set ⟨0, 1⟩ lava).get? ⟨0, 1⟩ = some lava ∧
      (g.set ⟨0, 1⟩ lava).get? ⟨2, 0⟩ = g.get? ⟨2, 0⟩ ∧
      (g.toList.map Prod.fst).count ⟨2, 1⟩ = 1 ∧
      (g.toList.map Prod.fst).Pairwise Coord.Before ∧
      (⟨2, 1⟩, lava) ∈ g.toList := by
  intro lava g
  have hcolumns : (3 : UInt32).toNat ≤ 2 ^ 31 := by decide
  have hrows : (2 : UInt32).toNat ≤ 2 ^ 31 := by decide
  obtain ⟨hsome, hset, hcount, hordered, hlisted⟩ :=
    built_exact hcolumns hrows [(⟨2, 1⟩, lava), (⟨5, 0⟩, lava)]
  have hoff : ¬(g.get? ⟨5, 0⟩).isSome = true := mt (hsome ⟨5, 0⟩).1 (by decide)
  have hlava : g.get? ⟨2, 1⟩ = some lava := get?_built 3 2 _ _
  exact ⟨⟨hcolumns, hrows⟩, Bool.eq_false_iff.2 hoff, (hset ..).trans (if_pos (by decide)),
    (hset ..).trans (if_neg (by decide)), (hcount _).trans (if_pos (by decide)), hordered,
    (hlisted _ _).2 hlava⟩

end TileGrid

end Skirmish
