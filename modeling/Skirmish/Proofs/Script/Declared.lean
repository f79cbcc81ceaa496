import Mathlib.Data.List.Induction
import Skirmish.Skill

/-!
# Which declarations count

Of the declarations of one kind in a script the last one counts (`Counts`): the metadata of a skill
has its value (`SkillMeta.range_ofScript`), and a warning about metadata is about it and stands
where it stands (`mem_metaWarnings_iff`).
-/

namespace Skirmish.Script

/-! ## The last declaration of a kind -/

section Last

variable {α : Type} {kind : α → Meta} {f : Meta → Option α}

/-- A declaration with a value that has none of its kind behind it. -/
def Counts (s : Script) (kind : α → Meta) (a : Located α) : Prop :=
  ∃ front back, s.metas = front ++ ⟨kind a.node, a.pos⟩ :: back ∧
    ∀ m ∈ back, ∀ b, m.node ≠ kind b

/-- A function gives the values of the declarations of one kind. -/
def Gives (f : Meta → Option α) (kind : α → Meta) : Prop := ∀ m a, f m = some a ↔ m = kind a

theorem Gives.eq_none_iff (h : Gives f kind) {m : Meta} : f m = none ↔ ∀ b, m ≠ kind b := by
  rw [Option.eq_none_iff_forall_ne_some]
  exact forall_congr' fun b => not_congr (h m b)

theorem lastMeta?_eq_some_iff {metas : List (Located Meta)} {a : Located α} :
    lastMeta? metas f = some a ↔ ∃ front m back, metas = front ++ m :: back ∧
      f m.node = some a.node ∧ m.pos = a.pos ∧ ∀ l ∈ back, f l.node = none := by
  rw [lastMeta?, List.getLast?_filterMap, List.findSome?_eq_some_iff]
  constructor
  · rintro ⟨back, m, front, hmetas, hm, hback⟩
    obtain ⟨v, hv, rfl⟩ := Option.map_eq_some_iff.1 hm
    refine ⟨front.reverse, m, back.reverse, ?_, hv, rfl, fun l hl => ?_⟩
    · rw [← List.reverse_reverse metas, hmetas]
      simp
    · exact Option.map_eq_none_iff.1 (hback l (List.mem_reverse.1 hl))
  · rintro ⟨front, m, back, rfl, hm, hpos, hback⟩
    refine ⟨back.reverse, m, front.reverse, by simp, ?_, fun l hl => ?_⟩
    · rw [hm, hpos]
      rfl
    · exact Option.map_eq_none_iff.2 (hback l (List.mem_reverse.1 hl))

theorem lastMeta?_concat (metas : List (Located Meta)) (m : Located Meta) :
    lastMeta? (metas ++ [m]) f =
      ((f m.node).map fun a => ⟨a, m.pos⟩).or (lastMeta? metas f) := by
  rw [lastMeta?, List.filterMap_append, List.getLast?_append, List.filterMap_cons,
    List.filterMap_nil]
  cases f m.node <;> rfl

/-- The declaration that counts is the last one that gives a value. -/
theorem Gives.counts_iff (h : Gives f kind) {s : Script} {a : Located α} :
    s.Counts kind a ↔ lastMeta? s.metas f = some a := by
  rw [lastMeta?_eq_some_iff, Counts]
  constructor
  · rintro ⟨front, back, hmetas, hback⟩
    exact ⟨front, _, back, hmetas, (h _ _).2 rfl, rfl, fun l hl => h.eq_none_iff.2 (hback l hl)⟩
  · rintro ⟨front, ⟨m, pos⟩, back, hmetas, hm, rfl, hback⟩
    obtain rfl := (h m a.node).1 hm
    exact ⟨front, back, hmetas, fun l hl => h.eq_none_iff.1 (hback l hl)⟩

/-- A part of the metadata that declarations of one kind replace has the value of the last one. -/
theorem foldl_declare {β : Type} (field : SkillMeta → β) (f : Meta → Option α) (put : α → β)
    (h : ∀ d m, field (d.declare m) = ((f m).map put).getD (field d))
    (metas : List (Located Meta)) (d : SkillMeta) :
    field ((metas.map Located.node).foldl SkillMeta.declare d) =
      ((lastMeta? metas f).map fun a => put a.node).getD (field d) := by
  induction metas using List.reverseRecOn with
  | nil => rfl
  | append_singleton metas m ih =>
    rw [List.map_append, List.foldl_append, List.map_singleton, List.foldl_cons, List.foldl_nil, h,
      ih, lastMeta?_concat]
    cases f m.node <;> rfl

end Last

/-! ## The kinds of declarations -/

namespace Meta

def range? : Meta → Option Int64
  | range n => some n
  | _ => none

def minRange? : Meta → Option Int64
  | minRange n => some n
  | _ => none

def targeting? : Meta → Option Targeting
  | targeting t => some t
  | _ => none

theorem gives_range : Gives range? range := by
  intro m n
  cases m <;> simp [range?]

theorem gives_minRange : Gives minRange? minRange := by
  intro m n
  cases m <;> simp [minRange?]

theorem gives_targeting : Gives targeting? targeting := by
  intro m t
  cases m <;> simp [targeting?]

end Meta

end Script

/-! ## The metadata of a skill -/

namespace SkillMeta

open Script

variable {s : Script}

theorem range_ofScript {n : Located Int64} (h : s.Counts .range n) :
    (ofScript s).range = some n.node := by
  have hfold := foldl_declare range Meta.range? some
    (fun d m => by cases m <;> rfl) s.metas {}
  rw [Meta.gives_range.counts_iff.1 h] at hfold
  exact hfold

theorem minRange_ofScript {n : Located Int64} (h : s.Counts .minRange n) :
    (ofScript s).minRange = n.node := by
  have hfold := foldl_declare minRange Meta.minRange? id
    (fun d m => by cases m <;> rfl) s.metas {}
  rw [Meta.gives_minRange.counts_iff.1 h] at hfold
  exact hfold

theorem targeting_ofScript {t : Located Targeting} (h : s.Counts .targeting t) :
    (ofScript s).targeting = t.node := by
  have hfold := foldl_declare targeting Meta.targeting? id
    (fun d m => by cases m <;> rfl) s.metas {}
  rw [Meta.gives_targeting.counts_iff.1 h] at hfold
  exact hfold

end SkillMeta

/-! ## Warnings about declarations -/

namespace Script

theorem metaWarnings_eq (metas : List (Located Meta)) :
    metaWarnings metas =
      (match lastMeta? metas Meta.range?, lastMeta? metas Meta.minRange? with
        | some high, some low =>
          if high.node < low.node then [⟨.unreachableRange low.node high.node, low.pos⟩] else []
        | _, _ => []) ++
      match lastMeta? metas Meta.range? with
      | some high =>
        if (lastMeta? metas Meta.targeting?).any (·.node = .self) ∧ high.node ≠ 0 then
          [⟨.ignoredRange high.node, high.pos⟩]
        else []
      | none => [] := rfl

/-- Warnings about metadata are about the declarations that count. -/
theorem mem_metaWarnings_iff {s : Script} {x : Located Warning} :
    x ∈ metaWarnings s.metas ↔
      (∃ low high, s.Counts .minRange low ∧ s.Counts .range high ∧ high.node < low.node ∧
        x = ⟨.unreachableRange low.node high.node, low.pos⟩) ∨
      ∃ high pos, s.Counts .range high ∧ s.Counts .targeting ⟨.self, pos⟩ ∧ high.node ≠ 0 ∧
        x = ⟨.ignoredRange high.node, high.pos⟩ := by
  have hself (t? : Option (Located Targeting)) :
      t?.any (·.node = .self) = true ↔ ∃ pos, t? = some ⟨.self, pos⟩ := by
    rw [Option.any_eq_true]
    constructor
    · rintro ⟨⟨t, pos⟩, rfl, ht⟩
      obtain rfl : t = .self := of_decide_eq_true ht
      exact ⟨pos, rfl⟩
    · rintro ⟨pos, rfl⟩
      exact ⟨_, rfl, rfl⟩
  rw [metaWarnings_eq, List.mem_append]
  simp only [Meta.gives_range.counts_iff, Meta.gives_minRange.counts_iff,
    Meta.gives_targeting.counts_iff]
  generalize lastMeta? s.metas Meta.range? = range?
  generalize lastMeta? s.metas Meta.minRange? = minRange?
  refine or_congr ?_ ?_
  · cases range? with
    | none => simp
    | some high => cases minRange? <;> simp
  · cases range? with
    | none => simp
    | some high => simp [hself, and_assoc]

end Script

end Skirmish
