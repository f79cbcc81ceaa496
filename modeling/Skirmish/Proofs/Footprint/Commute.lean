import Mathlib.Data.List.Perm.Basic
import Skirmish.Proofs.Footprint.Action

/-!
# Actions that commute

Two actions that neither write what the other reads or writes may be swapped
(`Action.apply_comm`). The members of a batch are pairwise such, so that a batch may be applied in
any order (`Action.applyAll_permuted_batches`).
-/

namespace Skirmish

namespace Action

variable {w : World} {rules : Rules} {a b : Action}

/-! ## Two actions -/

/-- An action reads the same before and after one that does not write there. -/
theorem agreeOn_of_disjoint (rules : Rules) (h : b.writes.disjoint a.reads = true)
    (hw : w.HasHealth) : w.AgreeOn a.readKeys (b.apply rules w).world := by
  have halike := (sameFrame_apply rules b w).toAlike
  refine agreeOn_readKeys halike hw (hasHealth_apply hw) fun l hl => ?_
  have hunwritten : b.writes.covers l = false := by
    rw [Bool.eq_false_iff]
    intro hwritten
    have hunread := Footprint.not_covers_of_disjoint h hwritten
    rw [hl] at hunread
    exact absurd hunread (by decide)
  exact (content_apply_of_not_covers hw hunwritten).symm

/-- Where only the first of two actions may write, it does not matter that it came first. -/
theorem content_swap_of_not_covers (h : b.writes.disjoint a.reads = true) (hw : w.HasHealth)
    {l : Location} (hl : b.writes.covers l = false) :
    (b.apply rules (a.apply rules w).world).world.content l =
      (a.apply rules (b.apply rules w).world).world.content l := by
  have hbefore : (b.apply rules w).world.content l = w.content l :=
    content_apply_of_not_covers hw hl
  rw [content_apply_of_not_covers (hasHealth_apply hw) hl]
  rcases (apply_confined rules a).content_cases (agreeOn_of_disjoint rules h hw) l with
    hsame | ⟨hkept, hkept'⟩
  · exact hsame
  · rw [hkept, hkept', hbefore]

/-- Actions whose order makes no difference. -/
def Swap (rules : Rules) (a b : Action) : Prop :=
  ∀ w : World, w.HasHealth →
    (b.apply rules (a.apply rules w).world).world = (a.apply rules (b.apply rules w).world).world

theorem Swap.symm (h : Swap rules a b) : Swap rules b a := fun w hw => (h w hw).symm

theorem swap_of_commutes (rules : Rules) (h : a.commutes b = true) : Swap rules a b := by
  intro w hw
  simp only [commutes, Bool.and_eq_true] at h
  obtain ⟨⟨hwrites, hab⟩, hba⟩ := h
  have hframe : (b.apply rules (a.apply rules w).world).world.SameFrame
      (a.apply rules (b.apply rules w).world).world :=
    ((sameFrame_apply rules a w).trans (sameFrame_apply rules b _)).symm.trans
      ((sameFrame_apply rules b w).trans (sameFrame_apply rules a _))
  refine World.eq_of_content hframe fun l => ?_
  -- no location is written by both, and the action that leaves it alone may come first or last
  cases hl : a.writes.covers l with
  | true => exact content_swap_of_not_covers hba hw (Footprint.not_covers_of_disjoint hwrites hl)
  | false => exact (content_swap_of_not_covers hab hw hl).symm

/-- Actions with disjoint footprints lead to the same world in either order. -/
theorem apply_comm (rules : Rules) (h : a.commutes b = true) (hw : w.HasHealth) :
    (b.apply rules (a.apply rules w).world).world =
      (a.apply rules (b.apply rules w).world).world :=
  swap_of_commutes rules h w hw

theorem apply_comm_strike :
    let strike := Action.strike .physical "ann" "bob" 7 0.25
    let blow := Action.damage "cid" 4
    arena.HasHealth ∧ strike.commutes blow = true ∧
      (blow.apply {} (strike.apply {} arena).world).world =
        (strike.apply {} (blow.apply {} arena).world).world := by
  intro strike blow
  have hdisjoint : strike.commutes blow = true := by decide
  exact ⟨hasHealth_arena, hdisjoint, apply_comm {} hdisjoint hasHealth_arena⟩

/-! ## Lists of actions -/

theorem world_applyAll_append (actions later : List Action) (w : World) :
    (applyAll rules (actions ++ later) w).world =
      (applyAll rules later (applyAll rules actions w).world).world := by
  rw [applyAll, Outcome.fold_append]
  rfl

theorem hasHealth_applyAll (h : w.HasHealth) (actions : List Action) :
    (applyAll rules actions w).world.HasHealth := by
  induction actions generalizing w with
  | nil => exact h
  | cons a actions ih => exact ih (hasHealth_apply h)

/-- Actions that swap pairwise may be applied in any order. -/
theorem applyAll_perm {actions actions' : List Action} (h : actions.Perm actions')
    (hswap : actions.Pairwise (Swap rules)) (hw : w.HasHealth) :
    (applyAll rules actions w).world = (applyAll rules actions' w).world := by
  induction h generalizing w with
  | nil => rfl
  | cons a _ ih => exact ih (List.Pairwise.of_cons hswap) (hasHealth_apply hw)
  | swap a b actions =>
    have hba : Swap rules b a := List.rel_of_pairwise_cons hswap List.mem_cons_self
    exact congrArg (fun w => (applyAll rules actions w).world) (hba w hw)
  | trans hperm _ ih ih' => exact (ih hswap hw).trans (ih' (hperm.pairwise hswap Swap.symm) hw)

/-- Groups of actions that swap pairwise may each be reordered. -/
theorem applyAll_flatten_perm {groups groups' : List (List Action)}
    (h : List.Forall₂ List.Perm groups' groups)
    (hswap : ∀ group ∈ groups, group.Pairwise (Swap rules)) (hw : w.HasHealth) :
    (applyAll rules groups'.flatten w).world = (applyAll rules groups.flatten w).world := by
  induction h generalizing w with
  | nil => rfl
  | @cons group' group groups' groups hperm _ ih =>
    have hgroup := hswap group List.mem_cons_self
    rw [List.flatten_cons, List.flatten_cons, world_applyAll_append, world_applyAll_append,
      applyAll_perm hperm.symm hgroup hw]
    exact ih (fun g hg => hswap g (List.mem_cons_of_mem group hg)) (hasHealth_applyAll hw group')

end Action

/-! ## Groups -/

section Groups

variable {α : Type} {goesWith : α → α → Bool}

/-- Groups cut a list without adding, dropping or moving elements. -/
theorem flatten_groupsFrom (group l : List α) :
    (groupsFrom goesWith group l).flatten = group ++ l := by
  induction l generalizing group with
  | nil =>
    rw [groupsFrom]
    cases group <;> simp
  | cons a rest ih =>
    rw [groupsFrom]
    split
    · rw [ih, List.append_assoc, List.singleton_append]
    · rw [List.flatten_cons, ih, List.singleton_append]

/-- In every group each element goes with all elements before it. -/
theorem pairwise_groupsFrom {group : List α} (h : group.Pairwise fun a b => goesWith b a = true)
    (l : List α) :
    ∀ g ∈ groupsFrom goesWith group l, g.Pairwise fun a b => goesWith b a = true := by
  induction l generalizing group with
  | nil =>
    intro g hg
    rw [groupsFrom] at hg
    split at hg
    · exact absurd hg List.not_mem_nil
    · rw [List.mem_singleton.1 hg]
      exact h
  | cons a rest ih =>
    rw [groupsFrom]
    split
    · next hall =>
      refine ih (List.pairwise_append.2 ⟨h, List.pairwise_singleton .., fun b hb c hc => ?_⟩)
      rw [List.mem_singleton.1 hc]
      exact List.all_eq_true.1 hall b hb
    · intro g hg
      rcases List.mem_cons.1 hg with rfl | hg
      · exact h
      · exact ih (List.pairwise_singleton ..) g hg

end Groups

/-! ## Batches -/

namespace Action

variable {actions : List Action} {rules : Rules} {w : World}

/-- The batches of a list, with the actions themselves. -/
def groups (actions : List Action) : List (List (Action × Nat)) :=
  groupsFrom (fun a b => a.1.commutes b.1) [] actions.zipIdx

theorem batches_eq_map_groups (actions : List Action) :
    batches actions = (groups actions).map (·.map Prod.snd) := rfl

theorem flatten_groups (actions : List Action) : (groups actions).flatten = actions.zipIdx := by
  rw [groups, flatten_groupsFrom, List.nil_append]

/-- Batches name every action of a list once, in order. -/
theorem flatten_batches (actions : List Action) :
    (batches actions).flatten = List.range actions.length := by
  rw [batches_eq_map_groups, ← List.map_flatten, flatten_groups, List.zipIdx_map_snd,
    List.range_eq_range']

/-- Looking up the indices of a batch gives its actions. -/
theorem map_filterMap_batches (actions : List Action) :
    (batches actions).map (·.filterMap (actions[·]?)) =
      (groups actions).map (·.map Prod.fst) := by
  rw [batches_eq_map_groups, List.map_map]
  refine List.map_congr_left fun g hg => ?_
  have hlookup : ∀ x ∈ g, actions[x.2]? = some x.1 := by
    intro x hx
    have hmem : x ∈ (groups actions).flatten := List.mem_flatten_of_mem hg hx
    rw [flatten_groups] at hmem
    exact List.mem_zipIdx_iff_getElem?.1 hmem
  rw [Function.comp_apply, List.filterMap_map, ← List.filterMap_eq_map]
  exact List.filterMap_congr hlookup

theorem swap_of_mem_groups (rules : Rules) :
    ∀ g ∈ (groups actions).map (·.map Prod.fst), g.Pairwise (Swap rules) := by
  intro g hg
  obtain ⟨g', hg', rfl⟩ := List.mem_map.1 hg
  rw [List.pairwise_map]
  exact (pairwise_groupsFrom .nil actions.zipIdx g' hg').imp
    fun h => (swap_of_commutes rules h).symm

theorem mapM_getElem? {is : List Nat} (h : ∀ i ∈ is, i < actions.length) :
    is.mapM (actions[·]?) = some (is.filterMap (actions[·]?)) := by
  induction is with
  | nil => rfl
  | cons i is ih =>
    have hi := List.getElem?_eq_getElem (h i List.mem_cons_self)
    rw [List.mapM_cons, hi, ih fun j hj => h j (List.mem_cons_of_mem i hj),
      List.filterMap_cons_some hi]
    rfl

/-- The members of each batch may be applied in any order. -/
theorem applyAll_permuted_batches (rules : Rules) (actions : List Action) (hw : w.HasHealth)
    {permuted : List (List Nat)} (h : List.Forall₂ List.Perm permuted (batches actions)) :
    ∃ reordered, permuted.flatten.mapM (actions[·]?) = some reordered ∧
      (applyAll rules reordered w).world = (applyAll rules actions w).world := by
  have hindices : ∀ i ∈ permuted.flatten, i < actions.length := by
    intro i hi
    have hmem : i ∈ (batches actions).flatten := (List.Perm.flatten_congr h).subset hi
    rw [flatten_batches] at hmem
    exact List.mem_range.1 hmem
  refine ⟨_, mapM_getElem? hindices, ?_⟩
  have hgroups : List.Forall₂ List.Perm (permuted.map (·.filterMap (actions[·]?)))
      ((groups actions).map (·.map Prod.fst)) := by
    rw [← map_filterMap_batches, List.forall₂_map_left_iff, List.forall₂_map_right_iff]
    exact h.imp fun p g hperm => hperm.filterMap _
  have hreordered := applyAll_flatten_perm hgroups (swap_of_mem_groups rules) hw
  rw [← List.map_flatten, flatten_groups, List.zipIdx_map_fst] at hreordered
  rw [List.filterMap_flatten]
  exact hreordered

theorem applyAll_permuted_batches_strike :
    let actions := [Action.strike .physical "ann" "bob" 7 0.25, .damage "cid" 4, .heal "ann" 2,
      .damage "bob" 3]
    arena.HasHealth ∧ List.Forall₂ List.Perm [[2, 0, 1], [3]] (batches actions) ∧
      ∃ reordered, [2, 0, 1, 3].mapM (actions[·]?) = some reordered ∧
        (applyAll {} reordered arena).world = (applyAll {} actions arena).world := by
  intro actions
  have hbatches : batches actions = [[0, 1, 2], [3]] := by decide +kernel
  have hperm : List.Forall₂ List.Perm [[2, 0, 1], [3]] (batches actions) := by
    rw [hbatches]
    exact .cons (by decide) (.cons (by decide) .nil)
  exact ⟨hasHealth_arena, hperm, applyAll_permuted_batches {} actions hasHealth_arena hperm⟩

end Action

end Skirmish
