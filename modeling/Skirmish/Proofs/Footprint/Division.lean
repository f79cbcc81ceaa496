import Mathlib.Data.List.Nodup
import Mathlib.Data.List.Pairwise
import Skirmish.Proofs.Footprint.Commute
import Skirmish.Proofs.Footprint.Overlap

/-!
# Batches are as few as possible

Batches are cut greedily: an action joins the batch before it if it commutes with every member, and
begins a batch of its own if it does not. To commute is symmetric (`Action.commutes_comm`), so the
members of a batch commute pairwise whichever of two is asked, and no other way of cutting the list
into consecutive groups of such actions has fewer groups (`Action.batches_fewest`).

That greed pays rests on one fact: what a group holds in front of its later members costs nothing
or one group more (`length_groupsFrom_append`). So the greedy groups take in the groups of any
other division one after the other and never become more than those (`length_groupsFrom_le`).
-/

namespace Skirmish

/-! ## To commute is symmetric -/

theorem Footprint.disjoint_comm (f g : Footprint) : f.disjoint g = g.disjoint f := by
  rw [Bool.eq_iff_iff, disjoint_iff, disjoint_iff, Set.inter_comm]

theorem Action.commutes_comm (a b : Action) : a.commutes b = b.commutes a := by
  rw [commutes, commutes, Footprint.disjoint_comm a.writes b.writes, Bool.and_assoc, Bool.and_assoc,
    Bool.and_comm (a.writes.disjoint _)]

/-! ## Groups -/

section Groups

variable {α β : Type} {goesWith : α → α → Bool}

/-- Groups depend on which elements of the list go with each other only. -/
theorem groupsFrom_map {along : β → β → Bool} {f : β → α} (group l : List β)
    (h : ∀ a ∈ group ++ l, ∀ b ∈ group ++ l, goesWith (f a) (f b) = along a b) :
    groupsFrom goesWith (group.map f) (l.map f) = (groupsFrom along group l).map (·.map f) := by
  induction l generalizing group with
  | nil => cases group <;> rfl
  | cons a rest ih =>
    have hall : (group.map f).all (goesWith (f a)) = group.all (along a) := by
      rw [List.all_map, Bool.eq_iff_iff, List.all_eq_true, List.all_eq_true]
      refine forall₂_congr fun b hb => ?_
      rw [Function.comp_apply, h a (by simp) b (List.mem_append_left _ hb)]
    rw [List.map_cons, groupsFrom, groupsFrom, hall]
    split
    · have hjoined := ih (group ++ [a]) (by simpa using h)
      rw [← hjoined, List.map_append]
      rfl
    · have hapart := ih [a] fun b hb c hc =>
        h b (List.mem_append_right group hb) c (List.mem_append_right group hc)
      rw [List.map_cons, ← hapart]
      rfl

theorem nil_notMem_groupsFrom (group l : List α) : [] ∉ groupsFrom goesWith group l := by
  induction l generalizing group with
  | nil => cases group <;> simp [groupsFrom]
  | cons a rest ih =>
    rw [groupsFrom]
    split
    · exact ih _
    · next hsome =>
      have hne : [] ≠ group := by
        rintro rfl
        exact hsome rfl
      exact List.not_mem_cons_of_ne_of_not_mem hne (ih [a])

/-- A group takes in what goes with all its members. -/
theorem groupsFrom_append {group more : List α}
    (h : (group ++ more).Pairwise fun a b => goesWith b a = true) (l : List α) :
    groupsFrom goesWith group (more ++ l) = groupsFrom goesWith (group ++ more) l := by
  induction more generalizing group with
  | nil => rw [List.nil_append, List.append_nil]
  | cons a more ih =>
    have hall : group.all (goesWith a) = true := by
      refine List.all_eq_true.2 fun b hb => ?_
      exact (List.pairwise_append.1 h).2.2 b hb a List.mem_cons_self
    rw [List.cons_append, groupsFrom, if_pos hall, ih (by simpa using h), List.append_assoc,
      List.singleton_append]

/-- What a group holds in front of its later members costs nothing, or one group more. -/
theorem length_groupsFrom_append (group later l : List α) :
    (groupsFrom goesWith later l).length ≤ (groupsFrom goesWith (group ++ later) l).length ∧
    (groupsFrom goesWith (group ++ later) l).length ≤ (groupsFrom goesWith later l).length + 1 := by
  induction l generalizing group later with
  | nil =>
    rw [groupsFrom, groupsFrom]
    cases group <;> cases later <;> simp
  | cons a rest ih =>
    rw [groupsFrom, groupsFrom]
    by_cases hwhole : (group ++ later).all (goesWith a) = true
    · -- The whole group takes the element in, and so does a part of it.
      have hlater : later.all (goesWith a) = true := by
        rw [List.all_append, Bool.and_eq_true] at hwhole
        exact hwhole.2
      rw [if_pos hwhole, if_pos hlater, List.append_assoc]
      exact ih group (later ++ [a])
    · rw [if_neg hwhole, List.length_cons]
      by_cases hlater : later.all (goesWith a) = true
      · -- The part takes it in, behind which the whole begins a new group.
        obtain ⟨hnew, hpart⟩ := ih later [a]
        rw [if_pos hlater]
        omega
      · rw [if_neg hlater, List.length_cons]
        omega

/-- Greedy groups are as few as those of any division into groups whose members go together. -/
theorem length_groupsFrom_le {division : List (List α)}
    (h : ∀ g ∈ division, g.Pairwise fun a b => goesWith b a = true) :
    (groupsFrom goesWith [] division.flatten).length ≤ division.length := by
  induction division with
  | nil => exact Nat.le_refl 0
  | cons g division ih =>
    have hfirst := h g List.mem_cons_self
    have hrest := ih fun g' hg' => h g' (List.mem_cons_of_mem g hg')
    calc (groupsFrom goesWith [] (g :: division).flatten).length
        = (groupsFrom goesWith (g ++ []) division.flatten).length := by
          rw [List.flatten_cons, groupsFrom_append hfirst, List.nil_append, List.append_nil]
      _ ≤ (groupsFrom goesWith [] division.flatten).length + 1 :=
          (length_groupsFrom_append g [] _).2
      _ ≤ (g :: division).length := Nat.succ_le_succ hrest

end Groups

/-! ## Batches -/

namespace Action

variable {actions : List Action} {i j : Nat}

/-- Two actions of a list, by index, are there and commute. -/
def Commuting (actions : List Action) (i j : Nat) : Prop :=
  ∃ a b, actions[i]? = some a ∧ actions[j]? = some b ∧ a.commutes b = true

/-- A list of actions is cut into consecutive groups, by index, in which any two members commute. -/
structure Divides (actions : List Action) (division : List (List Nat)) : Prop where
  consecutive : division.flatten = List.range actions.length
  commuting : ∀ g ∈ division, ∀ i ∈ g, ∀ j ∈ g, i ≠ j → Commuting actions i j

/-- Whether two actions of a list, by index, are there and commute. -/
def goTogether (actions : List Action) (i j : Nat) : Bool :=
  (actions[i]?).any fun a => (actions[j]?).any a.commutes

theorem goTogether_iff : goTogether actions i j = true ↔ Commuting actions i j := by
  simp only [goTogether, Option.any_eq_true]
  exact ⟨fun ⟨a, ha, b, hb, h⟩ => ⟨a, b, ha, hb, h⟩, fun ⟨a, b, ha, hb, h⟩ => ⟨a, ha, b, hb, h⟩⟩

instance : Std.Symm (Commuting actions) where
  symm := fun _ _ ⟨a, b, ha, hb, h⟩ => ⟨b, a, hb, ha, (commutes_comm b a).trans h⟩

/-- Batches are groups of indices. -/
theorem batches_eq_groupsFrom (actions : List Action) :
    batches actions = groupsFrom (goTogether actions) [] (List.range actions.length) := by
  have hsame : ∀ x ∈ [] ++ actions.zipIdx, ∀ y ∈ [] ++ actions.zipIdx,
      goTogether actions x.2 y.2 = x.1.commutes y.1 := by
    intro x hx y hy
    rw [goTogether, List.mem_zipIdx_iff_getElem?.1 hx, List.mem_zipIdx_iff_getElem?.1 hy,
      Option.any_some, Option.any_some]
  have hmap := groupsFrom_map [] actions.zipIdx hsame
  rw [List.map_nil, List.zipIdx_map_snd, ← List.range_eq_range'] at hmap
  exact hmap.symm

/-- In a group of a division the indices are in order, and each goes with those before it. -/
theorem Divides.pairwise {division : List (List Nat)} (h : Divides actions division) :
    ∀ g ∈ division, g.Pairwise fun i j => goTogether actions j i = true := by
  intro g hg
  have hnodup : division.flatten.Nodup := h.consecutive ▸ List.nodup_range
  refine List.Pairwise.imp_of_mem (fun {i j} hi hj hne => ?_) ((List.nodup_flatten.1 hnodup).1 g hg)
  exact goTogether_iff.2 (h.commuting g hg j hj i hi (Ne.symm hne))

theorem divides_batches (actions : List Action) : Divides actions (batches actions) := by
  refine ⟨flatten_batches actions, fun g hg i hi j hj hne => ?_⟩
  have hpairwise : g.Pairwise fun i j => Commuting actions i j := by
    rw [batches_eq_groupsFrom] at hg
    exact (pairwise_groupsFrom .nil _ g hg).imp fun h => symm (goTogether_iff.1 h)
  exact hpairwise.forall hi hj hne

/-- The batches of a list cut it into consecutive groups of actions that commute pairwise, none of
them empty, and no other such division has fewer groups. -/
theorem batches_fewest (actions : List Action) :
    Divides actions (batches actions) ∧ [] ∉ batches actions ∧
    ∀ division, Divides actions division → (batches actions).length ≤ division.length := by
  refine ⟨divides_batches actions, ?_, fun division hdivides => ?_⟩
  · rw [batches_eq_groupsFrom]
    exact nil_notMem_groupsFrom _ _
  · rw [batches_eq_groupsFrom, ← hdivides.consecutive]
    exact length_groupsFrom_le hdivides.pairwise

end Action

end Skirmish
