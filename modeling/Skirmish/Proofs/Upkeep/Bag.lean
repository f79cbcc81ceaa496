import Skirmish.Turn.Upkeep

/-!
# The bag of a unit in upkeep

Counting statuses down, regeneration, changes per turn and the end of an affliction change a bag
under a few names. What they do not name stays: `get?_tickStatuses`, `get?_regenerate`,
`get?_applyChanges` and `get?_countDown` say so of variables, the lemmas on `hasTag` of tags. All
that one tick of a status can do is in `tickStatus_cases`.
-/

namespace Skirmish

/-- The variables of a status: its counter, and the value that ends with it. -/
def Stat.TimedStatus.vars (status : TimedStatus) : List String :=
  status.counter :: status.companion?.toList

namespace Upkeep

/-- What the upkeep of a bag tells: notes, and which statuses have run out. -/
inductive Entry.Told (id : String) : Entry → Prop where
  | note (line : String) : Told id (.note line)
  | expired (status : String) : Told id (.announced (.statusExpired id status))

variable {name tag : String}

/-! ## Timed statuses -/

/-- A bag without a status that was in it: without its variables and its tag. -/
structure Lacks (status : Stat.TimedStatus) (unit ended : Bag) : Prop where
  get?_eq : ∀ name, ended.get? name = if name ∈ status.vars then none else unit.get? name
  hasTag_eq : ∀ tag, ended.hasTag tag = (tag != status.tag && unit.hasTag tag)

/-- A status that is not there is left alone, one with turns to come loses one, and the last turn
ends it. -/
theorem tickStatus_cases (id : String) (status : Stat.TimedStatus) (unit : Bag) :
    ((unit.int status.counter).toInt ≤ 0 ∧ tickStatus id status unit = (unit, [])) ∨
    (1 < (unit.int status.counter).toInt ∧ tickStatus id status unit =
      (unit.set status.counter (.int (unit.int status.counter - 1)), [])) ∨
    (unit.int status.counter = 1 ∧ ∃ ended line, Lacks status unit ended ∧
      tickStatus id status unit =
        (ended, [.note line, .announced (.statusExpired id status.tag)])) := by
  have hzero : unit.int status.counter ≤ 0 ↔ (unit.int status.counter).toInt ≤ 0 := by
    rw [Int64.le_iff_toInt_le, Int64.toInt_zero]
  have hone : 1 < unit.int status.counter ↔ 1 < (unit.int status.counter).toInt := by
    rw [Int64.lt_iff_toInt_lt, Int64.toInt_one]
  unfold tickStatus
  simp only [hzero, hone]
  by_cases hidle : (unit.int status.counter).toInt ≤ 0
  · exact .inl ⟨hidle, if_pos hidle⟩
  · rw [if_neg hidle]
    by_cases hruns : 1 < (unit.int status.counter).toInt
    · exact .inr (.inl ⟨hruns, if_pos hruns⟩)
    · have hlast : unit.int status.counter = 1 := by
        refine Int64.toInt_inj.1 ?_
        rw [Int64.toInt_one]
        omega
      rw [if_neg hruns]
      refine .inr (.inr ⟨hlast, _, _, ⟨fun name => ?_, fun tag => ?_⟩, rfl⟩)
      · cases hc : status.companion? with
        | none => simp [Stat.TimedStatus.vars, hc, Bag.get?_unset]
        | some value =>
          by_cases hvalue : name = value <;>
            simp [Stat.TimedStatus.vars, hc, Bag.get?_unset, hvalue]
      · cases status.companion? <;> simp [Bag.hasTag_untag]

theorem get?_tickStatus {status : Stat.TimedStatus} (h : name ∉ status.vars) (id : String)
    (unit : Bag) : (tickStatus id status unit).1.get? name = unit.get? name := by
  have hcounter : name ≠ status.counter := fun heq => h (heq ▸ List.mem_cons_self)
  rcases tickStatus_cases id status unit with ⟨-, heq⟩ | ⟨-, heq⟩ | ⟨-, ended, line, hended, heq⟩
  · rw [heq]
  · rw [heq, Bag.get?_set, if_neg hcounter]
  · rw [heq, hended.get?_eq, if_neg h]

theorem get?_tickStatuses {statuses : List Stat.TimedStatus}
    (h : ∀ status ∈ statuses, name ∉ status.vars) (id : String) (unit : Bag) :
    (tickStatuses id statuses unit).1.get? name = unit.get? name := by
  induction statuses generalizing unit with
  | nil => rfl
  | cons status statuses ih =>
    have hrest := fun unit => ih (fun s hs => h s (List.mem_cons_of_mem status hs)) unit
    rw [← get?_tickStatus (h status List.mem_cons_self) id unit]
    exact hrest _

theorem hasTag_tickStatus {status : Stat.TimedStatus} (h : tag ≠ status.tag) (id : String)
    (unit : Bag) : (tickStatus id status unit).1.hasTag tag = unit.hasTag tag := by
  rcases tickStatus_cases id status unit with ⟨-, heq⟩ | ⟨-, heq⟩ | ⟨-, ended, line, hended, heq⟩
  · rw [heq]
  · rw [heq, Bag.hasTag_set]
  · rw [heq, hended.hasTag_eq, bne_iff_ne.2 h, Bool.true_and]

theorem hasTag_tickStatuses {statuses : List Stat.TimedStatus}
    (h : ∀ status ∈ statuses, tag ≠ status.tag) (id : String) (unit : Bag) :
    (tickStatuses id statuses unit).1.hasTag tag = unit.hasTag tag := by
  induction statuses generalizing unit with
  | nil => rfl
  | cons status statuses ih =>
    have hrest := fun unit => ih (fun s hs => h s (List.mem_cons_of_mem status hs)) unit
    rw [← hasTag_tickStatus (h status List.mem_cons_self) id unit]
    exact hrest _

theorem told_tickStatus (id : String) (status : Stat.TimedStatus) (unit : Bag) :
    ∀ e ∈ (tickStatus id status unit).2, e.Told id := by
  rcases tickStatus_cases id status unit with ⟨-, heq⟩ | ⟨-, heq⟩ | ⟨-, ended, line, -, heq⟩
  · rw [heq]
    exact fun e he => absurd he List.not_mem_nil
  · rw [heq]
    exact fun e he => absurd he List.not_mem_nil
  · rw [heq]
    simp only [List.mem_cons, List.not_mem_nil, or_false]
    rintro e (rfl | rfl)
    · exact .note line
    · exact .expired status.tag

theorem told_tickStatuses (id : String) (statuses : List Stat.TimedStatus) (unit : Bag) :
    ∀ e ∈ (tickStatuses id statuses unit).2, e.Told id := by
  induction statuses generalizing unit with
  | nil => exact fun e he => absurd he List.not_mem_nil
  | cons status statuses ih =>
    intro e he
    rcases List.mem_append.1 he with hfirst | hrest
    · exact told_tickStatus id status unit e hfirst
    · exact ih (tickStatus id status unit).1 e hrest

/-! ## Regeneration -/

/-- Regeneration leaves a unit alone, or it sets one variable, with a greatest value to no more than
that or what there was. -/
theorem regen_cases (id vital maxName rateName : String) (unit : Bag) :
    regen id vital maxName rateName unit = (unit, []) ∨
      ∃ (next : Int64) (line : String),
        regen id vital maxName rateName unit = (unit.set vital (.int next), [.note line]) ∧
        (unit.contains maxName = true →
          next.toInt ≤ max (unit.int vital).toInt (unit.int maxName).toInt) := by
  unfold regen
  dsimp only
  generalize hnext : (if unit.contains maxName = true then
    min (max (Saturating.add (unit.int vital) (unit.int rateName)) 0)
      (max (unit.int maxName) (unit.int vital))
    else max (Saturating.add (unit.int vital) (unit.int rateName)) 0) = next
  by_cases hstays : unit.int rateName = 0 ∨ next = unit.int vital
  · rw [if_pos hstays]
    exact .inl rfl
  · rw [if_neg hstays]
    refine .inr ⟨next, _, rfl, fun hlimited => ?_⟩
    rw [← hnext, if_pos hlimited, Saturating.toInt_min, Saturating.toInt_max, Saturating.toInt_max]
    omega

theorem get?_regen {vital : String} (h : name ≠ vital) (id maxName rateName : String)
    (unit : Bag) : (regen id vital maxName rateName unit).1.get? name = unit.get? name := by
  rcases regen_cases id vital maxName rateName unit with hsame | ⟨next, line, hset, -⟩
  · rw [hsame]
  · rw [hset, Bag.get?_set, if_neg h]

theorem hasTag_regen (id vital maxName rateName : String) (unit : Bag) :
    (regen id vital maxName rateName unit).1.hasTag tag = unit.hasTag tag := by
  rcases regen_cases id vital maxName rateName unit with hsame | ⟨next, line, hset, -⟩
  · rw [hsame]
  · rw [hset, Bag.hasTag_set]

theorem toInt_regen_le {maxName : String} {unit : Bag} (h : unit.contains maxName = true)
    (id vital rateName : String) :
    ((regen id vital maxName rateName unit).1.int vital).toInt ≤
      max (unit.int vital).toInt (unit.int maxName).toInt := by
  rcases regen_cases id vital maxName rateName unit with hsame | ⟨next, line, hset, hle⟩
  · rw [hsame]
    exact Int.le_max_left _ _
  · have hint : (unit.set vital (.int next)).int vital = next := by
      rw [Bag.int, Bag.get?_set, if_pos rfl]
      rfl
    rw [hset, hint]
    exact hle h

/-- Health regenerates on what the regeneration of magic leaves. -/
theorem regenerate_eq (id : String) (unit : Bag) :
    let first := regen id Stat.mp Stat.maxMp Stat.mpRegen unit
    let second := regen id Stat.hp Stat.maxHp Stat.hpRegen first.1
    regenerate id unit = (second.1, first.2 ++ second.2) := by
  intro first second
  simp only [regenerate]
  rfl

theorem get?_regenerate (hmp : name ≠ Stat.mp) (hhp : name ≠ Stat.hp) (id : String) (unit : Bag) :
    (regenerate id unit).1.get? name = unit.get? name := by
  rw [regenerate_eq, get?_regen hhp, get?_regen hmp]

theorem hasTag_regenerate (id : String) (unit : Bag) :
    (regenerate id unit).1.hasTag tag = unit.hasTag tag := by
  rw [regenerate_eq, hasTag_regen, hasTag_regen]

theorem told_regen (id vital maxName rateName : String) (unit : Bag) :
    ∀ e ∈ (regen id vital maxName rateName unit).2, e.Told id := by
  intro e he
  rcases regen_cases id vital maxName rateName unit with hsame | ⟨next, line, hset, -⟩
  · rw [hsame] at he
    exact absurd he List.not_mem_nil
  · rw [hset] at he
    rw [List.mem_singleton.1 he]
    exact .note line

theorem told_regenerate (id : String) (unit : Bag) : ∀ e ∈ (regenerate id unit).2, e.Told id := by
  intro e he
  rw [regenerate_eq] at he
  rcases List.mem_append.1 he with hmp | hhp
  · exact told_regen _ _ _ _ _ e hmp
  · exact told_regen _ _ _ _ _ e hhp

/-! ## Changes per turn -/

theorem afterPrefix?_append (start rest : String) :
    afterPrefix? start (start ++ rest) = some rest := by
  have hprefix : start.toList <+: (start ++ rest).toList := by simp
  rw [afterPrefix?, if_pos (List.isPrefixOf_iff_prefix.2 hprefix)]
  simp

theorem eq_append_of_afterPrefix? {start whole rest : String}
    (h : afterPrefix? start whole = some rest) : whole = start ++ rest := by
  rw [afterPrefix?] at h
  split at h
  · next hprefix =>
    obtain ⟨later, hlater⟩ := List.isPrefixOf_iff_prefix.1 hprefix
    have hrest : String.ofList later = rest := by
      rw [← hlater, List.drop_left] at h
      exact Option.some.inj h
    rw [← hrest, ← String.toList_inj, String.toList_append, String.toList_ofList, hlater]
  · cases h

/-- A change of a variable is what the unit holds under the name of the change. -/
theorem get?_of_mem_changes {unit : Bag} {change : String × Value} (h : change ∈ changes unit) :
    unit.get? (Stat.perTurn ++ change.1) = some change.2 := by
  obtain ⟨entry, hentry, hchange⟩ := List.mem_filterMap.1 h
  split at hchange
  · next target htarget =>
    split at hchange
    · cases hchange
    · cases hchange
      rw [← eq_append_of_afterPrefix? htarget]
      exact NameMap.get?_of_mem_entries hentry
  · cases hchange

theorem mem_changes_of_get? {unit : Bag} {value : Value}
    (h : unit.get? (Stat.perTurn ++ name) = some value) (hne : name ≠ "") :
    (name, value) ∈ changes unit := by
  refine List.mem_filterMap.2 ⟨(Stat.perTurn ++ name, value), NameMap.mem_entries_of_get? h, ?_⟩
  simp only [afterPrefix?_append, if_neg hne]

theorem get?_applyChange {change : String × Value} (h : name ≠ change.1) (rules : Rules)
    (unit : Bag) : (applyChange rules unit change).get? name = unit.get? name := by
  rw [applyChange, Bag.get?_set, if_neg h]

theorem get?_foldl_applyChange {list : List (String × Value)} (h : ∀ change ∈ list, name ≠ change.1)
    (rules : Rules) (unit : Bag) :
    (list.foldl (applyChange rules) unit).get? name = unit.get? name := by
  induction list generalizing unit with
  | nil => rfl
  | cons change list ih =>
    rw [List.foldl_cons, ih fun c hc => h c (List.mem_cons_of_mem change hc)]
    exact get?_applyChange (h change List.mem_cons_self) rules unit

/-- A variable that no change is for stays. -/
theorem get?_applyChanges {unit : Bag} (h : unit.get? (Stat.perTurn ++ name) = none)
    (rules : Rules) : (applyChanges rules unit).get? name = unit.get? name := by
  refine get?_foldl_applyChange (fun change hchange heq => ?_) rules unit
  have hsome := get?_of_mem_changes hchange
  rw [← heq, h] at hsome
  cases hsome

theorem hasTag_applyChanges (rules : Rules) (unit : Bag) :
    (applyChanges rules unit).hasTag tag = unit.hasTag tag := by
  rw [applyChanges]
  generalize changes unit = list
  induction list generalizing unit with
  | nil => rfl
  | cons change list ih =>
    rw [List.foldl_cons, ih, applyChange, Bag.hasTag_set]

/-! ## Afflictions -/

theorem get?_countDown {a : Affliction} (hturns : name ≠ a.turns) (hamount : name ≠ a.amount)
    (left : Int64) (unit : Bag) : (a.countDown left unit).get? name = unit.get? name := by
  rw [Affliction.countDown]
  split
  · rw [Bag.get?_set, if_neg hturns]
  · rw [Bag.get?_untag, Bag.get?_unset, if_neg hamount, Bag.get?_unset, if_neg hturns]

theorem hasTag_countDown {a : Affliction} (h : tag ≠ a.tag) (left : Int64) (unit : Bag) :
    (a.countDown left unit).hasTag tag = unit.hasTag tag := by
  rw [Affliction.countDown]
  split
  · rw [Bag.hasTag_set]
  · simp [Bag.hasTag_untag, h]

end Upkeep

end Skirmish
