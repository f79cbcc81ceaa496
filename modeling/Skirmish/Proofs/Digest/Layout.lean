import Skirmish.Proofs.Digest.Readable
import Skirmish.Proofs.Grid.Tiles
import Skirmish.Proofs.State.Location

/-!
# What the bytes of a world tell

The bytes of a world tell the world among all worlds of one layout: with the same numbers of
variables and tags in each bag and with the same number of tiles that hold something
(`eq_iff_of_fits`). They do not tell the layout itself. Where a list of tags ends, the id of the
next unit or the place of the next tile may be read as one tag more, so that two worlds of
different layouts can have the same bytes (`bytes_eq_of_moved_tags`).
-/

namespace Skirmish

namespace Digest

/-- What the bytes of a world do not show: how many variables and tags its bags hold, and how many
tiles hold something. -/
structure Layout where
  global : Nat × Nat
  tiles : List (Nat × Nat)
  units : List (Nat × Nat)
  deriving DecidableEq

def layout (w : World) : Layout :=
  { global := bagLayout w.global
    tiles := w.tiles.occupied.map fun t => bagLayout t.2
    units := w.units.entries.map fun u => bagLayout u.2 }

/-- The texts of a world fit. -/
structure WorldFits (w : World) : Prop where
  global : BagFits w.global
  tiles : ∀ t ∈ w.tiles.occupied, BagFits t.2
  units : ∀ u ∈ w.units.entries, TextFits u.1 ∧ BagFits u.2

instance : DecidablePred WorldFits := fun _ =>
  decidable_of_iff (_ ∧ _ ∧ _)
    ⟨fun h => ⟨h.1, h.2.1, h.2.2⟩, fun h => ⟨h.global, h.tiles, h.units⟩⟩

variable {v w : World}

theorem eq_of_bytes (hv : WorldFits v) (hw : WorldFits w) (hlayout : layout v = layout w)
    (h : bytes v = bytes w) : v = w := by
  have htile : Readable (fun t : Coord × Bag => BagFits t.2) (fun t => bagLayout t.2)
      fun t => coord t.1 ++ bag t.2 :=
    (readable_coord.append readable_bag).mono (fun _ ht => ⟨trivial, ht⟩)
      fun _ _ ht => congrArg (Prod.mk ()) ht
  have hunit : Readable (fun u : String × Bag => TextFits u.1 ∧ BagFits u.2)
      (fun u => bagLayout u.2) fun u => text u.1 ++ bag u.2 :=
    (readable_text.append readable_bag).mono (fun _ hu => hu) fun _ _ hu => congrArg (Prod.mk ()) hu
  obtain ⟨hglobal, htiles, hunits⟩ := Layout.mk.inj hlayout
  simp only [bytes, List.append_assoc] at h
  obtain ⟨hturn, h⟩ := readable_word trivial trivial rfl h
  obtain ⟨hseed, h⟩ := readable_word trivial trivial rfl h
  obtain ⟨hrolls, h⟩ := readable_word trivial trivial rfl h
  obtain ⟨hbag, h⟩ := readable_bag hv.global hw.global hglobal h
  obtain ⟨hwidth, h⟩ := readable_halfWord trivial trivial rfl h
  obtain ⟨hheight, h⟩ := readable_halfWord trivial trivial rfl h
  obtain ⟨hoccupied, h⟩ := htile.flatMap hv.tiles hw.tiles htiles h
  have hcount : v.units.entries.length = w.units.entries.length := by
    simpa using congrArg List.length hunits
  rw [hcount] at h
  have hlast := List.append_cancel_left h
  rw [← List.append_nil (List.flatMap _ v.units.entries),
    ← List.append_nil (List.flatMap _ w.units.entries)] at hlast
  obtain ⟨hentries, -⟩ := hunit.flatMap hv.units hw.units hunits hlast
  have htiles := TileGrid.eq_of_occupied hwidth hheight hoccupied
  have hunits := entries_inj hentries
  obtain ⟨_, _, _, _, _, _⟩ := v
  obtain ⟨_, _, _, _, _, _⟩ := w
  cases hturn
  cases hseed
  cases hrolls
  cases hbag
  cases htiles
  cases hunits
  rfl

/-- Bytes and layout together tell a world. -/
theorem eq_iff_of_fits (hv : WorldFits v) (hw : WorldFits w) :
    v = w ↔ bytes v = bytes w ∧ layout v = layout w := by
  constructor
  · rintro rfl
    exact ⟨rfl, rfl⟩
  · rintro ⟨hbytes, hlayout⟩
    exact eq_of_bytes hv hw hlayout hbytes

/-- Whoever is hurt, healed or moved keeps the layout of a world, so the bytes tell. -/
theorem eq_iff_of_fits_arena :
    let hurt := arena.updateUnit "bob" (·.set Stat.hp (.int 11))
    WorldFits arena ∧ WorldFits hurt ∧ layout arena = layout hurt ∧ arena ≠ hurt ∧
      (arena = hurt ↔ bytes arena = bytes hurt ∧ layout arena = layout hurt) ∧
      bytes arena ≠ bytes hurt := by
  intro hurt
  have harena : WorldFits arena := by decide
  have hhurt : WorldFits hurt := by decide
  have hlayout : layout arena = layout hurt := by decide +kernel
  have hne : arena ≠ hurt := by decide +kernel
  have hiff := eq_iff_of_fits harena hhurt
  exact ⟨harena, hhurt, hlayout, hne, hiff, fun hbytes => hne (hiff.2 ⟨hbytes, hlayout⟩)⟩

/-- Two worlds with the same bytes and different units: the id of the second unit of the one is a
tag of the first unit of the other, and its first variable is a tag and an id. -/
theorem bytes_eq_of_moved_tags :
    let empty : World :=
      { turn := 0, seed := 0, rolls := 0, global := .empty, tiles := .filled 3 3, units := .empty }
    let first := Bag.newUnit ⟨0, 0⟩ 5
    let second := Bag.newUnit ⟨1, 0⟩ 7
    let v := (empty.putUnit "1" first).putUnit "2" (second.set Stat.attack (.float 2.0))
    let w := (empty.putUnit "1" ((first.tag "2").tag Stat.attack)).putUnit "@" second
    WorldFits v ∧ WorldFits w ∧ bytes v = bytes w ∧ v.units.names ≠ w.units.names := by
  decide +kernel

end Digest

end Skirmish
