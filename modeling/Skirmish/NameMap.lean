/-!
# Maps from names

A finite map from names, listed in the order of its names. The order is part of the type, so that
two maps with the same content are equal (`NameMap.ext`). Names are ordered by code points, which is
also the order of their UTF-8 bytes.
-/

namespace Skirmish

/-- A map from names to values of type `α`, in ascending order of names. -/
structure NameMap (α : Type) where
  entries : List (String × α)
  sorted : entries.Pairwise fun a b => a.1 < b.1
  deriving DecidableEq

namespace NameMap

variable {α β : Type}

def empty : NameMap α := ⟨[], .nil⟩

instance : Inhabited (NameMap α) := ⟨empty⟩

def get? (m : NameMap α) (name : String) : Option α :=
  (m.entries.find? fun e => e.1 == name).map Prod.snd

def contains (m : NameMap α) (name : String) : Bool :=
  (m.get? name).isSome

def names (m : NameMap α) : List String :=
  m.entries.map Prod.fst

/-- The entries below, at and above a name. -/
private def insertEntry (l : List (String × α)) (name : String) (value : α) :
    List (String × α) :=
  l.filter (fun e => e.1 < name) ++ (name, value) :: l.filter (fun e => name < e.1)

private theorem insertEntry_sorted {l : List (String × α)}
    (h : l.Pairwise fun a b => a.1 < b.1) (name : String) (value : α) :
    (insertEntry l name value).Pairwise fun a b => a.1 < b.1 := by
  refine List.pairwise_append.2 ⟨h.filter _, List.pairwise_cons.2 ⟨?_, h.filter _⟩, ?_⟩
  · simp only [List.mem_filter, decide_eq_true_eq]
    exact fun e he => he.2
  · simp only [List.mem_filter, decide_eq_true_eq, List.mem_cons]
    rintro a ⟨-, ha⟩ b (rfl | ⟨-, hb⟩)
    · exact ha
    · exact String.lt_trans ha hb

/-- The map with a value put under a name, in place of an earlier one. -/
def insert (m : NameMap α) (name : String) (value : α) : NameMap α :=
  ⟨insertEntry m.entries name value, insertEntry_sorted m.sorted name value⟩

def erase (m : NameMap α) (name : String) : NameMap α :=
  ⟨m.entries.filter fun e => e.1 != name, m.sorted.filter _⟩

/-- The map with the value under a name changed; without such a value it stays as it is. -/
def modify (m : NameMap α) (name : String) (f : α → α) : NameMap α :=
  match m.get? name with
  | some value => m.insert name (f value)
  | none => m

/-- The map that results from putting entries one after the other. -/
def ofList (l : List (String × α)) : NameMap α :=
  l.foldl (fun m e => m.insert e.1 e.2) empty

@[simp] theorem get?_empty (name : String) : (empty : NameMap α).get? name = none := rfl

theorem mem_entries_of_get? {m : NameMap α} {name : String} {value : α}
    (h : m.get? name = some value) : (name, value) ∈ m.entries := by
  obtain ⟨⟨k, v⟩, hfind, rfl⟩ := Option.map_eq_some_iff.1 h
  have hk : k = name := by simpa using List.find?_some hfind
  exact hk ▸ List.mem_of_find?_eq_some hfind

theorem get?_of_mem_entries {m : NameMap α} {name : String} {value : α}
    (h : (name, value) ∈ m.entries) : m.get? name = some value := by
  obtain ⟨entries, sorted⟩ := m
  simp only [get?] at h ⊢
  induction entries with
  | nil => simp at h
  | cons e rest ih =>
    have hs := List.pairwise_cons.1 sorted
    rcases List.mem_cons.1 h with rfl | hmem
    · simp
    · have hlt : e.1 < name := hs.1 _ hmem
      have hne : e.1 ≠ name := fun he => String.lt_irrefl name (he ▸ hlt)
      rw [List.find?_cons_of_neg (by simpa using hne)]
      exact ih hs.2 hmem

theorem get?_eq_some_iff {m : NameMap α} {name : String} {value : α} :
    m.get? name = some value ↔ (name, value) ∈ m.entries :=
  ⟨mem_entries_of_get?, get?_of_mem_entries⟩

theorem get?_insert (m : NameMap α) (name other : String) (value : α) :
    (m.insert name value).get? other = if other = name then some value else m.get? other := by
  refine Option.ext fun v => ?_
  rw [get?_eq_some_iff]
  simp only [insert, insertEntry, List.mem_append, List.mem_filter, List.mem_cons,
    decide_eq_true_eq, Prod.mk.injEq]
  by_cases h : other = name
  · subst h
    simp [eq_comm]
  · simp only [h, if_false, false_and, false_or, get?_eq_some_iff]
    have : other < name ∨ name < other := by
      rcases Classical.em (other < name) with hlt | hge
      · exact .inl hlt
      · exact .inr <| Classical.byContradiction fun hle =>
          h (String.le_antisymm (String.not_lt.1 hle) (String.not_lt.1 hge))
    constructor
    · rintro (⟨hm, -⟩ | ⟨hm, -⟩) <;> exact hm
    · exact fun hm => this.imp (⟨hm, ·⟩) (⟨hm, ·⟩)

theorem get?_erase (m : NameMap α) (name other : String) :
    (m.erase name).get? other = if other = name then none else m.get? other := by
  refine Option.ext fun v => ?_
  rw [get?_eq_some_iff]
  by_cases h : other = name <;> simp [erase, List.mem_filter, h, get?_eq_some_iff]

private theorem nodup_of_sorted {β : Type} (name : β → String) {l : List β}
    (h : l.Pairwise fun a b => name a < name b) : l.Nodup := by
  refine List.nodup_iff_pairwise_ne.2 (h.imp ?_)
  rintro a _ hab rfl
  exact String.lt_irrefl (name a) hab

theorem ext {m n : NameMap α} (h : ∀ name, m.get? name = n.get? name) : m = n := by
  have hmem : ∀ e, e ∈ m.entries ↔ e ∈ n.entries := fun e => by
    rw [← Prod.eta e, ← get?_eq_some_iff, h, get?_eq_some_iff]
  obtain ⟨l, hl⟩ := m
  obtain ⟨r, hr⟩ := n
  congr
  refine List.Perm.eq_of_pairwise ?_ hl hr ?_
  · exact fun a b _ _ hab hba => absurd hba (String.lt_asymm hab)
  · have hnodup := nodup_of_sorted Prod.fst hl
    exact (List.perm_ext_iff_of_nodup hnodup (nodup_of_sorted Prod.fst hr)).2 hmem

/-! ## The names of a map -/

theorem contains_iff {m : NameMap α} {name : String} :
    m.contains name = true ↔ ∃ value, (name, value) ∈ m.entries := by
  simp only [contains, Option.isSome_iff_exists, get?_eq_some_iff]

theorem contains_insert (m : NameMap α) (name other : String) (value : α) :
    (m.insert name value).contains other = (other == name || m.contains other) := by
  by_cases h : other = name <;> simp [contains, get?_insert, h]

theorem mem_names_iff {m : NameMap α} {name : String} :
    name ∈ m.names ↔ m.contains name = true := by
  simp [names, contains_iff]

theorem sorted_names (m : NameMap α) : m.names.Pairwise (· < ·) :=
  List.pairwise_map.2 m.sorted

theorem nodup_names (m : NameMap α) : m.names.Nodup :=
  nodup_of_sorted id m.sorted_names

/-- Maps with the same names list them alike, whatever the values. -/
theorem names_eq_of_contains {m : NameMap α} {n : NameMap β}
    (h : ∀ name, m.contains name = n.contains name) : m.names = n.names := by
  have hperm : m.names.Perm n.names := by
    refine (List.perm_ext_iff_of_nodup m.nodup_names n.nodup_names).2 fun name => ?_
    rw [mem_names_iff, mem_names_iff, h]
  exact hperm.eq_of_pairwise (fun _ _ _ _ hab hba => absurd hba (String.lt_asymm hab))
    m.sorted_names n.sorted_names

/-- A choice among the entries is a choice among the names. -/
theorem map_fst_filter_entries (m : NameMap α) (p : String × α → Bool) :
    (m.entries.filter p).map Prod.fst =
      m.names.filter fun name => (m.get? name).any fun value => p (name, value) := by
  rw [names, List.filter_map]
  refine congrArg _ (List.filter_congr fun e he => ?_)
  simp [get?_of_mem_entries he]

theorem any_entries (m : NameMap α) (p : String × α → Bool) :
    m.entries.any p = m.names.any fun name => (m.get? name).any fun value => p (name, value) := by
  rw [names, List.any_map, Bool.eq_iff_iff, List.any_eq_true, List.any_eq_true]
  refine exists_congr fun e => and_congr_right fun he => ?_
  simp [get?_of_mem_entries he]

end NameMap

/-- A set of names, in ascending order. -/
structure NameSet where
  table : NameMap Unit
  deriving DecidableEq, Inhabited

namespace NameSet

def empty : NameSet := ⟨.empty⟩

def contains (s : NameSet) (name : String) : Bool := s.table.contains name

def insert (s : NameSet) (name : String) : NameSet := ⟨s.table.insert name ()⟩

def erase (s : NameSet) (name : String) : NameSet := ⟨s.table.erase name⟩

def toList (s : NameSet) : List String := s.table.names

theorem contains_insert (s : NameSet) (name other : String) :
    (s.insert name).contains other = (other == name || s.contains other) := by
  by_cases h : other = name <;> simp [contains, insert, NameMap.contains, NameMap.get?_insert, h]

theorem contains_erase (s : NameSet) (name other : String) :
    (s.erase name).contains other = (other != name && s.contains other) := by
  by_cases h : other = name <;> simp [contains, erase, NameMap.contains, NameMap.get?_erase, h]

theorem ext {s t : NameSet} (h : ∀ name, s.contains name = t.contains name) : s = t := by
  obtain ⟨s⟩ := s
  obtain ⟨t⟩ := t
  congr
  refine NameMap.ext fun name => ?_
  have := h name
  simp only [contains, NameMap.contains] at this
  cases hs : s.get? name <;> cases ht : t.get? name <;> simp_all

end NameSet

end Skirmish
