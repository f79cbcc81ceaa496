import Mathlib.Data.Set.Insert
import Skirmish.Proofs.State.Location

/-!
# What keys stand for

A key stands for a set of locations (`Key.locations`), of which `Key.covers` tells the members, and
a footprint for the locations of its keys. Keys overlap just if their sets meet, and footprints are
disjoint just if theirs are (`Footprint.overlaps_exact`): no conflict is missed and none is made up.
-/

namespace Skirmish

namespace Key

/-! ## Tags -/

/-- The tags that a tag key of a unit stands for: itself and, if it ends in a colon, all tags that
begin with it. -/
def tags (key : String) : Set String :=
  {tag | tag = key ∨ ((∃ stem, key = stem ++ ":") ∧ ∃ rest, tag = key ++ rest)}

theorem isFamily_iff (key : String) : isFamily key = true ↔ ∃ stem, key = stem ++ ":" := by
  rw [isFamily, beq_iff_eq, List.getLast?_eq_some_iff]
  constructor
  · rintro ⟨stem, hstem⟩
    refine ⟨String.ofList stem, String.toList_inj.1 ?_⟩
    rw [hstem, String.toList_append, String.toList_ofList]
    rfl
  · rintro ⟨stem, rfl⟩
    exact ⟨stem.toList, String.toList_append⟩

theorem isPrefixOf_iff (key tag : String) :
    key.toList.isPrefixOf tag.toList = true ↔ ∃ rest, tag = key ++ rest := by
  rw [List.isPrefixOf_iff_prefix]
  constructor
  · rintro ⟨rest, hrest⟩
    refine ⟨String.ofList rest, String.toList_inj.1 ?_⟩
    rw [← hrest, String.toList_append, String.toList_ofList]
  · rintro ⟨rest, rfl⟩
    exact ⟨rest.toList, String.toList_append.symm⟩

theorem mem_tags_iff {key tag : String} : tag ∈ tags key ↔ standsFor key tag = true := by
  rw [standsFor, Bool.or_eq_true, Bool.and_eq_true, beq_iff_eq, isFamily_iff, isPrefixOf_iff,
    eq_comm]
  rfl

/-- Tag keys overlap just if they stand for a common tag. -/
theorem tagsOverlap_iff (a b : String) : tagsOverlap a b = true ↔ (tags a ∩ tags b).Nonempty := by
  constructor
  · intro h
    rw [tagsOverlap, Bool.or_eq_true, Bool.or_eq_true, Bool.and_eq_true, Bool.and_eq_true,
      beq_iff_eq, isFamily_iff, isPrefixOf_iff, isFamily_iff, isPrefixOf_iff] at h
    -- The longer one of the two keys is itself a tag that both stand for.
    obtain (rfl | ha) | hb := h
    · exact ⟨a, .inl rfl, .inl rfl⟩
    · exact ⟨b, .inr ha, .inl rfl⟩
    · exact ⟨a, .inl rfl, .inr hb⟩
  · rintro ⟨tag, ha, hb⟩
    exact tagsOverlap_of_standsFor (mem_tags_iff.1 ha) (mem_tags_iff.1 hb)

/-! ## Keys -/

/-- The locations that a key stands for. -/
def locations : Key → Set Location
  | var place name => {.var place name}
  | tag (.unit id) key => {l | ∃ tag ∈ tags key, l = .tag (.unit id) tag}
  | tag place name => {.tag place name}
  | anyUnitVar name => {l | ∃ id, l = .var (.unit id) name}
  | anyUnitTag key => {l | ∃ id, ∃ tag ∈ tags key, l = .tag (.unit id) tag}
  | rolls => {.rolls}

theorem mem_locations_iff {k : Key} {l : Location} : l ∈ k.locations ↔ k.covers l = true := by
  match l with
  | .var (.unit id) name =>
    rw [covers_unitVar_iff]
    fun_cases locations k <;> grind
  | .tag (.unit id) name =>
    simp only [covers_unitTag_iff, ← mem_tags_iff]
    fun_cases locations k <;> grind
  | .var (.tile _) _ | .tag (.tile _) _ | .var .global _ | .tag .global _ | .rolls =>
    rw [covers_iff_of_not_unit (by simp) (by simp)]
    fun_cases locations k <;> grind [ofLocation]

theorem locations_nonempty (k : Key) : k.locations.Nonempty := by
  fun_cases locations k with
  | case1 place name => exact ⟨_, rfl⟩
  | case2 id key => exact ⟨_, key, .inl rfl, rfl⟩
  | case3 place name => exact ⟨_, rfl⟩
  | case4 name => exact ⟨_, "", rfl⟩
  | case5 key => exact ⟨_, "", key, .inl rfl, rfl⟩
  | case6 => exact ⟨_, rfl⟩

/-- Keys overlap just if they stand for a common location. -/
theorem overlaps_iff (k l : Key) : k.overlaps l = true ↔ (k.locations ∩ l.locations).Nonempty := by
  constructor
  · fun_cases overlaps k l with
    | case1 a b =>
      intro h
      obtain rfl := beq_iff_eq.1 h
      exact ⟨.var (.unit "") a, ⟨"", rfl⟩, "", rfl⟩
    | case2 a id b =>
      intro h
      obtain rfl := beq_iff_eq.1 h
      exact ⟨.var (.unit id) a, ⟨id, rfl⟩, rfl⟩
    | case3 id a b =>
      intro h
      obtain rfl := beq_iff_eq.1 h
      exact ⟨.var (.unit id) a, rfl, id, rfl⟩
    | case4 a b =>
      intro h
      obtain ⟨name, ha, hb⟩ := (tagsOverlap_iff a b).1 h
      exact ⟨.tag (.unit "") name, ⟨"", name, ha, rfl⟩, "", name, hb, rfl⟩
    | case5 a id b =>
      intro h
      obtain ⟨name, ha, hb⟩ := (tagsOverlap_iff a b).1 h
      exact ⟨.tag (.unit id) name, ⟨id, name, ha, rfl⟩, name, hb, rfl⟩
    | case6 id a b =>
      intro h
      obtain ⟨name, ha, hb⟩ := (tagsOverlap_iff a b).1 h
      exact ⟨.tag (.unit id) name, ⟨name, ha, rfl⟩, id, name, hb, rfl⟩
    | case7 i a j b =>
      intro h
      obtain ⟨hid, htags⟩ := Bool.and_eq_true_iff.1 h
      obtain rfl := beq_iff_eq.1 hid
      obtain ⟨name, ha, hb⟩ := (tagsOverlap_iff a b).1 htags
      exact ⟨.tag (.unit i) name, ⟨name, ha, rfl⟩, name, hb, rfl⟩
    | case8 k l =>
      intro h
      obtain rfl := beq_iff_eq.1 h
      rw [Set.inter_self]
      exact locations_nonempty k
  · rintro ⟨x, hk, hl⟩
    exact overlaps_of_covers (mem_locations_iff.1 hk) (mem_locations_iff.1 hl)

end Key

namespace Footprint

/-- The locations that the keys of a footprint stand for. -/
def locations (f : Footprint) : Set Location := {l | ∃ k ∈ f.keys, l ∈ k.locations}

theorem mem_locations_iff {f : Footprint} {l : Location} : l ∈ f.locations ↔ f.covers l = true := by
  rw [covers, List.any_eq_true]
  exact exists_congr fun k => and_congr_right fun _ => Key.mem_locations_iff

theorem disjoint_iff (f g : Footprint) :
    f.disjoint g = true ↔ ¬(f.locations ∩ g.locations).Nonempty := by
  constructor
  · rintro h ⟨l, hf, hg⟩
    have hnot := not_covers_of_disjoint h (mem_locations_iff.1 hf)
    rw [mem_locations_iff.1 hg] at hnot
    cases hnot
  · intro h
    simp only [disjoint, Bool.not_eq_true', List.any_eq_false, Bool.not_eq_true]
    intro k hk l hl
    rw [Bool.eq_false_iff]
    intro hoverlap
    obtain ⟨x, hkx, hlx⟩ := (Key.overlaps_iff k l).1 hoverlap
    exact h ⟨x, ⟨k, hk, hkx⟩, l, hl, hlx⟩

/-- Keys overlap just if some location belongs to both, and footprints are disjoint just if none
does. -/
theorem overlaps_exact :
    (∀ k l : Key, k.overlaps l = true ↔ (k.locations ∩ l.locations).Nonempty) ∧
      ∀ f g : Footprint, f.disjoint g = true ↔ ¬(f.locations ∩ g.locations).Nonempty :=
  ⟨Key.overlaps_iff, disjoint_iff⟩

end Footprint

end Skirmish
