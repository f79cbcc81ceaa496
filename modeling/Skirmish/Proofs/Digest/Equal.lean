import Skirmish.Proofs.Digest.Readable
import Skirmish.Proofs.Number.Zero
import Skirmish.Proofs.State.Location
import Skirmish.World.Equal
import Mathlib.Data.List.Forall2

/-!
# The bytes of equal worlds

Equal worlds have the same bytes if their zeros have the same signs, and only then
(`bytes_eq_iff_of_equal`). The two zeros are equal as numbers, but the bytes of a double are its
bits, and so the sign of a zero shows (`bytes_ne_of_negative_zero`).
-/

namespace Skirmish.Digest

variable {α : Type}

/-! ## Signs of zeros -/

/-- The signs of the zeros in a value: whether each is negative. -/
def valueSigns : Value → List Bool
  | .float x => if x == 0.0 then [x.toBits != 0] else []
  | .int _ | .bool _ | .text _ | .coord _ => []

def bagSigns (b : Bag) : List Bool := b.vars.entries.flatMap fun v => valueSigns v.2

/-- The signs of all zeros in a world, in the order of its bytes. -/
def zeroSigns (w : World) : List Bool :=
  bagSigns w.global ++ w.tiles.occupied.flatMap (fun t => bagSigns t.2) ++
    w.units.entries.flatMap fun u => bagSigns u.2

/-- Bytes of equal length that differ if the signs do, and only then. -/
structure ToldBySigns (x y : List UInt8) (s t : List Bool) : Prop where
  bytes : x.length = y.length
  signs : s.length = t.length
  eq_iff : x = y ↔ s = t

namespace ToldBySigns

variable {x y x' y' : List UInt8} {s t s' t' : List Bool}

theorem refl (x : List UInt8) : ToldBySigns x x [] [] := ⟨rfl, rfl, by simp⟩

theorem append (h : ToldBySigns x y s t) (h' : ToldBySigns x' y' s' t') :
    ToldBySigns (x ++ x') (y ++ y') (s ++ s') (t ++ t') where
  bytes := by rw [List.length_append, List.length_append, h.bytes, h'.bytes]
  signs := by rw [List.length_append, List.length_append, h.signs, h'.signs]
  eq_iff := by
    rw [List.append_eq_append_iff_of_size_eq_left h.bytes, h.eq_iff, h'.eq_iff,
      List.append_eq_append_iff_of_size_eq_left h.signs]

theorem flatMap {encode : α → List UInt8} {signs : α → List Bool} {l m : List α}
    (h : List.Forall₂ (fun a b => ToldBySigns (encode a) (encode b) (signs a) (signs b)) l m) :
    ToldBySigns (l.flatMap encode) (m.flatMap encode) (l.flatMap signs) (m.flatMap signs) := by
  induction h with
  | nil => exact .refl []
  | cons hab _ ih =>
    rw [List.flatMap_cons, List.flatMap_cons, List.flatMap_cons, List.flatMap_cons]
    exact hab.append ih

end ToldBySigns

/-! ## Parts of equal worlds -/

theorem forall₂_of_isEqv {r : α → α → Bool} {l m : List α} (h : l.isEqv m r) :
    List.Forall₂ (fun a b => r a b) l m := by
  induction l generalizing m with
  | nil =>
    cases m with
    | nil => exact .nil
    | cons b m => cases h
  | cons a l ih =>
    cases m with
    | nil => cases h
    | cons b m =>
      obtain ⟨hab, hlm⟩ := Bool.and_eq_true_iff.1 h
      exact .cons hab (ih hlm)

/-- A zero is told by its sign, any other double by nothing more than its being equal. -/
theorem toldBySigns_float {x y : Float} (h : x == y) :
    ToldBySigns (word x.toBits) (word y.toBits) (valueSigns (.float x)) (valueSigns (.float y)) := by
  have hlength : (word x.toBits).length = (word y.toBits).length := by
    rw [word, word, length_littleEndian, length_littleEndian]
  have hzero := Number.beq_zero_congr h
  rw [valueSigns, valueSigns, ← hzero]
  cases hx : x == 0.0 with
  | false =>
    rw [Number.eq_of_beq_of_ne_zero h hx]
    exact .refl _
  | true =>
    rw [hx] at hzero
    refine ⟨hlength, rfl, ?_⟩
    rcases Number.toBits_of_zero hx with hx | hx <;>
      rcases Number.toBits_of_zero hzero.symm with hy | hy <;> rw [hx, hy] <;> decide

theorem toldBySigns_value {v w : Value} (h : v.equal w) :
    ToldBySigns (value v) (value w) (valueSigns v) (valueSigns w) := by
  cases v <;> cases w <;> try cases h
  case float.float x y =>
    exact (ToldBySigns.refl [1]).append (toldBySigns_float h)
  all_goals
    cases beq_iff_eq.1 h
    exact .refl _

theorem toldBySigns_bag {b c : Bag} (h : b.equal c) :
    ToldBySigns (bag b) (bag c) (bagSigns b) (bagSigns c) := by
  obtain ⟨hvars, htags⟩ := Bool.and_eq_true_iff.1 h
  have hvars : ToldBySigns (b.vars.entries.flatMap fun v => text v.1 ++ value v.2)
      (c.vars.entries.flatMap fun v => text v.1 ++ value v.2) (bagSigns b) (bagSigns c) := by
    refine .flatMap ((forall₂_of_isEqv hvars).imp fun v w hvw => ?_)
    obtain ⟨hname, hvalue⟩ := Bool.and_eq_true_iff.1 hvw
    rw [beq_iff_eq.1 hname]
    exact (ToldBySigns.refl (text w.1)).append (toldBySigns_value hvalue)
  rw [bag, bag, beq_iff_eq.1 htags, ← List.append_nil (bagSigns b), ← List.append_nil (bagSigns c)]
  exact hvars.append (.refl _)

/-- A bag is empty if it is equal to an empty one. -/
theorem eq_empty_congr {b c : Bag} (h : b.equal c) : b = .empty ↔ c = .empty := by
  obtain ⟨hvars, htags⟩ := Bool.and_eq_true_iff.1 h
  have hlength := (forall₂_of_isEqv hvars).length_eq
  have hiff : ∀ d : Bag, d = .empty ↔ d.vars.entries.length = 0 ∧ d.tags = .empty := by
    intro d
    rw [List.length_eq_zero_iff]
    constructor
    · rintro rfl
      exact ⟨rfl, rfl⟩
    · rintro ⟨hentries, htags⟩
      obtain ⟨⟨_, _⟩, _⟩ := d
      cases hentries
      cases htags
      rfl
  rw [hiff, hiff, hlength, beq_iff_eq.1 htags]

theorem forall₂_mapIdx {κ : Type} {R : α → α → Prop} {l m : List α} (h : List.Forall₂ R l m)
    (place : Nat → κ) :
    List.Forall₂ (fun s t => s.1 = t.1 ∧ R s.2 t.2) (l.mapIdx fun i a => (place i, a))
      (m.mapIdx fun i a => (place i, a)) := by
  induction h generalizing place with
  | nil => exact .nil
  | cons hab _ ih =>
    rw [List.mapIdx_cons, List.mapIdx_cons]
    exact .cons ⟨rfl, hab⟩ (ih fun i => place (i + 1))

/-- Equal grids hold something at the same places. -/
theorem forall₂_occupied {g h : TileGrid} (hequal : g.equal h) :
    List.Forall₂ (fun s t => s.1 = t.1 ∧ s.2.equal t.2) g.occupied h.occupied := by
  rw [TileGrid.equal, Bool.and_eq_true, Bool.and_eq_true, beq_iff_eq, beq_iff_eq] at hequal
  obtain ⟨⟨hwidth, -⟩, hcells⟩ := hequal
  have hplace : h.place = g.place := by
    funext i
    rw [TileGrid.place, TileGrid.place, hwidth]
  have htiles := forall₂_mapIdx (forall₂_of_isEqv hcells) g.place
  rw [TileGrid.occupied, TileGrid.occupied, TileGrid.toList, TileGrid.toList, hplace]
  refine List.rel_filter (fun s t hst => ?_) htiles
  simp only [ne_eq, decide_eq_true_eq, eq_empty_congr hst.2]

theorem toldBySigns_bytes {v w : World} (h : v.equal w) :
    ToldBySigns (bytes v) (bytes w) (zeroSigns v) (zeroSigns w) := by
  simp only [World.equal, Bool.and_eq_true, beq_iff_eq] at h
  obtain ⟨⟨⟨⟨⟨hturn, hseed⟩, hrolls⟩, hglobal⟩, hgrid⟩, hunits⟩ := h
  have hglobal := toldBySigns_bag hglobal
  have htiles : ToldBySigns (v.tiles.occupied.flatMap fun t => coord t.1 ++ bag t.2)
      (w.tiles.occupied.flatMap fun t => coord t.1 ++ bag t.2)
      (v.tiles.occupied.flatMap fun t => bagSigns t.2)
      (w.tiles.occupied.flatMap fun t => bagSigns t.2) := by
    refine .flatMap ((forall₂_occupied hgrid).imp fun s t hst => ?_)
    rw [hst.1]
    exact (ToldBySigns.refl (coord t.1)).append (toldBySigns_bag hst.2)
  have hunits := forall₂_of_isEqv hunits
  have hcount := hunits.length_eq
  have hunits : ToldBySigns (v.units.entries.flatMap fun u => text u.1 ++ bag u.2)
      (w.units.entries.flatMap fun u => text u.1 ++ bag u.2)
      (v.units.entries.flatMap fun u => bagSigns u.2)
      (w.units.entries.flatMap fun u => bagSigns u.2) := by
    refine .flatMap (hunits.imp fun u t hut => ?_)
    obtain ⟨hid, hbag⟩ := Bool.and_eq_true_iff.1 hut
    rw [beq_iff_eq.1 hid]
    exact (ToldBySigns.refl (text t.1)).append (toldBySigns_bag hbag)
  simp only [TileGrid.equal, Bool.and_eq_true, beq_iff_eq] at hgrid
  obtain ⟨⟨hwidth, hheight⟩, -⟩ := hgrid
  have hclock := ToldBySigns.refl (word w.turn ++ word w.seed ++ word w.rolls)
  have hsize := ToldBySigns.refl (halfWord w.tiles.width ++ halfWord w.tiles.height)
  have hnumber := ToldBySigns.refl (littleEndian 8 w.units.entries.length)
  have hall := ((((hclock.append hglobal).append hsize).append htiles).append hnumber).append hunits
  rw [bytes, bytes, hturn, hseed, hrolls, hwidth, hheight, hcount]
  simpa only [zeroSigns, List.nil_append, List.append_nil, List.append_assoc] using hall

/-- Equal worlds have the same bytes, and so the same digest, if and only if their zeros have the
same signs. -/
theorem bytes_eq_iff_of_equal {v w : World} (h : v.equal w) :
    (bytes v = bytes w ↔ zeroSigns v = zeroSigns w) ∧
      (zeroSigns v = zeroSigns w → v.digest = w.digest) := by
  have hiff := (toldBySigns_bytes h).eq_iff
  exact ⟨hiff, fun hsigns => congrArg Sha256.hash (hiff.2 hsigns)⟩

theorem bytes_eq_iff_of_equal_arena :
    let v := arena.updateUnit "bob" fun u => (u.set "a" (.float (-0.0))).set "b" (.float 0.0)
    let w := arena.updateUnit "bob" fun u => (u.set "a" (.float (-0.0))).set "b" (.float (-0.0))
    v.equal w ∧ zeroSigns v = [true, false] ∧ zeroSigns w = [true, true] ∧ bytes v ≠ bytes w := by
  intro v w
  have h : v.equal w := by decide +kernel
  have hv : zeroSigns v = [true, false] := by decide +kernel
  have hw : zeroSigns w = [true, true] := by decide +kernel
  have hne : zeroSigns v ≠ zeroSigns w := by
    rw [hv, hw]
    decide
  exact ⟨h, hv, hw, fun hbytes => hne ((bytes_eq_iff_of_equal h).1.1 hbytes)⟩

/-- Two worlds that are equal but for the sign of a zero have different bytes. -/
theorem bytes_ne_of_negative_zero :
    let v := arena.updateUnit "bob" (·.set Stat.attack (.float 0.0))
    let w := arena.updateUnit "bob" (·.set Stat.attack (.float (-0.0)))
    v.equal w ∧ bytes v ≠ bytes w := by
  decide +kernel

end Skirmish.Digest
