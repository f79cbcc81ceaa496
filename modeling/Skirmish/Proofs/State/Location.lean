import Skirmish.Footprint

/-!
# Locations

A location is one piece of the state of a world: a variable or a tag of one bag, or the counter of
chance rolls. `World.content` is the view through which actions are compared. A key stands for a
set of locations (`Key.covers`); keys that stand for a common location overlap
(`Key.overlaps_of_covers`), and disjoint footprints cover no common location.
-/

namespace Skirmish

/-- A piece of the state of a world. -/
inductive Location where
  | var (place : Place) (name : String)
  | tag (place : Place) (tag : String)
  | rolls
  deriving DecidableEq

/-- What a location holds. -/
inductive Content where
  /-- The value of a variable, if it has one. -/
  | value (v? : Option Value)
  /-- Whether a tag is there. -/
  | mark (present : Bool)
  | count (n : UInt64)
  deriving DecidableEq

/-- What a world holds at a location. -/
def World.content (w : World) : Location → Content
  | .var place name => .value ((w.bag? place).bind (·.get? name))
  | .tag place tag => .mark ((w.bag? place).any (·.hasTag tag))
  | .rolls => .count w.rolls

/-- Every unit has a health variable. -/
def World.HasHealth (w : World) : Prop :=
  ∀ id unit, w.unit? id = some unit → unit.contains Stat.hp = true

/-! ## Worlds with health -/

namespace World

theorem hasHealth_new (width height : UInt32) (seed : UInt64) {w : World}
    (h : World.new width height seed = .ok w) : w.HasHealth := by
  rw [World.new] at h
  split at h
  · cases h
  · cases h
    intro id unit hunit
    cases hunit

theorem HasHealth.putUnit {w : World} (h : w.HasHealth) (id : String) (unit : Bag) :
    (w.putUnit id unit).HasHealth := by
  intro id' unit' hunit
  simp only [unit?, World.putUnit, NameMap.get?_insert] at hunit
  split at hunit
  · cases hunit
    split
    · assumption
    · simp [Bag.contains_eq_isSome, Bag.get?_set]
  · exact h id' unit' hunit

end World

/-- Two fighters, one of whom is about to evade, and a bystander of the second one's team. -/
def arena : World :=
  let empty : World :=
    { turn := 0, seed := 7, rolls := 0, global := .empty, tiles := .filled 4 3, units := .empty }
  let ann := Bag.empty.withAll
    [(Stat.hp, .int 30), (Stat.attack, .int 5), (Stat.position, .coord ⟨0, 1⟩),
      (Stat.team, .text "red")] []
  let bob := Bag.empty.withAll
    [(Stat.hp, .int 12), (Stat.shield, .int 3), (Stat.evadeCharges, .int 1),
      (Stat.position, .coord ⟨1, 1⟩), (Stat.team, .text "blue")] []
  let cid := Bag.empty.withAll
    [(Stat.hp, .int 9), (Stat.position, .coord ⟨2, 1⟩), (Stat.team, .text "blue")] []
  ((empty.putUnit "ann" ann).putUnit "bob" bob).putUnit "cid" cid

theorem hasHealth_arena : arena.HasHealth := by
  have hempty := World.hasHealth_new 4 3 7 rfl
  exact ((hempty.putUnit "ann" _).putUnit "bob" _).putUnit "cid" _

namespace Key

/-- The key that names one location. -/
def ofLocation : Location → Key
  | .var place name => .var place name
  | .tag place name => .tag place name
  | .rolls => .rolls

/-- Whether a tag key of a unit stands for a tag. -/
def standsFor (key name : String) : Bool :=
  key == name || (isFamily key && key.toList.isPrefixOf name.toList)

/-- Whether a key stands for a location. -/
def covers : Key → Location → Bool
  | anyUnitVar name, .var (.unit _) name' => name == name'
  | anyUnitTag key, .tag (.unit _) name => standsFor key name
  | tag (.unit id) key, .tag (.unit id') name => id == id' && standsFor key name
  | k, l => k == ofLocation l

theorem standsFor_self (name : String) : standsFor name name = true := by
  simp [standsFor]

theorem covers_ofLocation (l : Location) : (ofLocation l).covers l = true := by
  cases l with
  | var place name => cases place <;> simp [ofLocation, covers]
  | tag place name => cases place <;> simp [ofLocation, covers, standsFor_self]
  | rolls => simp [ofLocation, covers]

/-! ## The keys of one location -/

theorem covers_unitVar_iff {k : Key} {id name : String} :
    k.covers (.var (.unit id) name) = true ↔ k = .var (.unit id) name ∨ k = .anyUnitVar name := by
  cases k <;> simp [covers, ofLocation]

theorem covers_unitTag_iff {k : Key} {id name : String} :
    k.covers (.tag (.unit id) name) = true ↔
      ∃ key, standsFor key name = true ∧ (k = .tag (.unit id) key ∨ k = .anyUnitTag key) := by
  cases k with
  | tag place key =>
    cases place with
    | unit id' =>
      simp only [covers, Bool.and_eq_true, beq_iff_eq, tag.injEq, Place.unit.injEq, reduceCtorEq,
        or_false]
      grind
    | _ => simp [covers, ofLocation]
  | _ => simp [covers, ofLocation]

/-- Only units have keys that stand for more than one location. -/
theorem covers_iff_of_not_unit {k : Key} {l : Location}
    (hvar : ∀ id name, l ≠ .var (.unit id) name) (htag : ∀ id name, l ≠ .tag (.unit id) name) :
    k.covers l = true ↔ k = ofLocation l := by
  unfold covers
  split
  · exact (hvar _ _ rfl).elim
  · exact (htag _ _ rfl).elim
  · exact (htag _ _ rfl).elim
  · rw [beq_iff_eq]

/-! ## Overlapping keys -/

/-- Of two tag keys that stand for one tag, the shorter stands for the longer. -/
theorem tagsOverlap_of_standsFor {a b name : String} (ha : standsFor a name = true)
    (hb : standsFor b name = true) : tagsOverlap a b = true := by
  simp only [standsFor, tagsOverlap, Bool.or_eq_true, Bool.and_eq_true, beq_iff_eq,
    List.isPrefixOf_iff_prefix] at ha hb ⊢
  rcases ha with rfl | ⟨ha, hpa⟩
  · rcases hb with rfl | ⟨hb, hpb⟩
    · exact .inl (.inl rfl)
    · exact .inr ⟨hb, hpb⟩
  · rcases hb with rfl | ⟨hb, hpb⟩
    · exact .inl (.inr ⟨ha, hpa⟩)
    · rcases List.prefix_or_prefix_of_prefix hpa hpb with hab | hba
      · exact .inl (.inr ⟨ha, hab⟩)
      · exact .inr ⟨hb, hba⟩

theorem overlaps_self (k : Key) : k.overlaps k = true := by
  cases k with
  | tag place name => cases place <;> simp [overlaps, tagsOverlap]
  | _ => simp [overlaps, tagsOverlap]

/-- Keys that stand for a common location overlap. -/
theorem overlaps_of_covers {k l : Key} {x : Location} (hk : k.covers x = true)
    (hl : l.covers x = true) : k.overlaps l = true := by
  match x with
  | .var (.unit id) name =>
    rw [covers_unitVar_iff] at hk hl
    rcases hk with rfl | rfl <;> rcases hl with rfl | rfl <;> simp [overlaps]
  | .tag (.unit id) name =>
    obtain ⟨a, ha, hk⟩ := covers_unitTag_iff.1 hk
    obtain ⟨b, hb, hl⟩ := covers_unitTag_iff.1 hl
    have hab := tagsOverlap_of_standsFor ha hb
    rcases hk with rfl | rfl <;> rcases hl with rfl | rfl <;> simp [overlaps, hab]
  | .var (.tile _) _ | .tag (.tile _) _ | .var .global _ | .tag .global _ | .rolls =>
    rw [covers_iff_of_not_unit (by simp) (by simp)] at hk hl
    rw [hk, hl, overlaps_self]

end Key

namespace Footprint

/-- Whether a key of a footprint stands for a location. -/
def covers (f : Footprint) (l : Location) : Bool := f.keys.any (·.covers l)

theorem covers_ofList (keys : List Key) (l : Location) :
    (ofList keys).covers l = keys.any (·.covers l) := by
  rw [Bool.eq_iff_iff, covers, List.any_eq_true, List.any_eq_true]
  exact exists_congr fun k => and_congr_left fun _ => mem_ofList

/-- No location is covered by two disjoint footprints. -/
theorem not_covers_of_disjoint {f g : Footprint} (h : f.disjoint g = true) {l : Location}
    (hf : f.covers l = true) : g.covers l = false := by
  rw [Bool.eq_false_iff]
  intro hg
  obtain ⟨k, hk, hkl⟩ := List.any_eq_true.1 hf
  obtain ⟨m, hm, hml⟩ := List.any_eq_true.1 hg
  have hoverlap : (f.keys.any fun k => g.keys.any k.overlaps) = true :=
    List.any_eq_true.2 ⟨k, hk, List.any_eq_true.2 ⟨m, hm, Key.overlaps_of_covers hkl hml⟩⟩
  simp [disjoint, hoverlap] at h

/-- A location whose key overlaps no key of a footprint is not covered. -/
theorem not_covers_of_not_overlaps {f : Footprint} {l : Location}
    (h : ∀ k ∈ f.keys, (Key.ofLocation l).overlaps k = false) : f.covers l = false := by
  rw [Bool.eq_false_iff]
  intro hf
  obtain ⟨k, hk, hkl⟩ := List.any_eq_true.1 hf
  have hoverlap := Key.overlaps_of_covers (Key.covers_ofLocation l) hkl
  simp [h k hk] at hoverlap

end Footprint

end Skirmish
