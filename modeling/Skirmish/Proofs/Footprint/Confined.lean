import Mathlib.Data.List.Forall2
import Skirmish.Proofs.State.Edit
import Skirmish.Trace

/-!
# Confined steps

A step is confined to the keys it reads and the keys it writes if, on any two comparable worlds
that hold the same wherever it reads, it comes to the same edits, all of them where it writes, and
records the same events (`Confined`).

Read on one world, this says what a step may change (`Confined.content_eq`); read on two, it says
on what it depends (`Confined.content_cases`). Confined steps may follow one another
(`Confined.andThen`, `Confined.fold`).
-/

namespace Skirmish

/-- Some key stands for a location. -/
def Covered (keys : List Key) (l : Location) : Prop := ∃ k ∈ keys, k.covers l = true

theorem covered_of_mem {keys : List Key} {l : Location} (h : Key.ofLocation l ∈ keys) :
    Covered keys l :=
  ⟨_, h, Key.covers_ofLocation l⟩

theorem covered_of_subset {keys wider : List Key} (h : keys ⊆ wider) (l : Location) :
    Covered keys l → Covered wider l := by
  rintro ⟨k, hk, hkl⟩
  exact ⟨k, h hk, hkl⟩

/-- A key stands for no more locations than another one. -/
def Key.Within (k m : Key) : Prop := ∀ l, k.covers l = true → m.covers l = true

@[simp] theorem Key.within_refl (k : Key) : k.Within k := fun _ h => h

theorem covered_of_within {keys wider : List Key} (h : List.Forall₂ Key.Within keys wider)
    (l : Location) : Covered keys l → Covered wider l := by
  rintro ⟨k, hk, hkl⟩
  induction h with
  | nil => exact absurd hk List.not_mem_nil
  | @cons m m' ms ms' hm _ ih =>
    rcases List.mem_cons.1 hk with rfl | hk
    · exact ⟨m', List.mem_cons_self, hm l hkl⟩
    · obtain ⟨k', hk', hkl'⟩ := ih hk
      exact ⟨k', List.mem_cons_of_mem m' hk', hkl'⟩

theorem Footprint.covers_ofList_iff {keys : List Key} {l : Location} :
    (Footprint.ofList keys).covers l = true ↔ Covered keys l := by
  rw [covers_ofList, List.any_eq_true]
  rfl

/-- Comparable worlds that hold the same wherever some keys stand. -/
structure World.AgreeOn (keys : List Key) (v w : World) : Prop extends v.Comparable w where
  content : ∀ l, Covered keys l → v.content l = w.content l

namespace World.AgreeOn

variable {keys : List Key} {v w : World}

theorem refl (keys : List Key) (w : World) : w.AgreeOn keys w := ⟨.refl w, fun _ _ => rfl⟩

theorem mono {wider : List Key} (h : v.AgreeOn wider w)
    (hkeys : ∀ l, Covered keys l → Covered wider l) : v.AgreeOn keys w :=
  ⟨h.toComparable, fun l hl => h.content l (hkeys l hl)⟩

/-- The same edits keep worlds in agreement. -/
theorem run (h : v.AgreeOn keys w) (es : List Edit) :
    (Edit.run es v).AgreeOn keys (Edit.run es w) := by
  refine ⟨Edit.comparable_run h.toComparable es, fun l hl => ?_⟩
  rcases Edit.content_run_cases h.toComparable es l with hsame | ⟨hv, hw⟩
  · exact hsame
  · rw [hv, hw, h.content l hl]

theorem get? (h : v.AgreeOn keys w) {p : Place} {b c : Bag} (hv : v.bag? p = some b)
    (hw : w.bag? p = some c) {name : String} (hname : Covered keys (.var p name)) :
    b.get? name = c.get? name := by
  simpa [World.content, hv, hw] using h.content _ hname

theorem hasTag (h : v.AgreeOn keys w) {p : Place} {b c : Bag} (hv : v.bag? p = some b)
    (hw : w.bag? p = some c) {name : String} (hname : Covered keys (.tag p name)) :
    b.hasTag name = c.hasTag name := by
  simpa [World.content, hv, hw] using h.content _ hname

end World.AgreeOn

/-- A step whose edits and events are fixed by what it reads, and whose edits are where it
writes. -/
def Confined (reads writes : List Key) (step : World → Outcome) : Prop :=
  ∀ v w : World, v.AgreeOn reads w → ∃ es trace, (∀ e ∈ es, Covered writes e.location) ∧
    step v = ⟨Edit.run es v, trace⟩ ∧ step w = ⟨Edit.run es w, trace⟩

namespace Confined

variable {reads writes : List Key} {f g : World → Outcome}

/-! ## Steps that are confined -/

theorem run (es : List Edit) (h : ∀ e ∈ es, Covered writes e.location) (trace : List TraceEvent) :
    Confined reads writes fun w => ⟨Edit.run es w, trace⟩ :=
  fun _ _ _ => ⟨es, trace, h, rfl, rfl⟩

theorem edit {e : Edit} (h : Covered writes e.location) (trace : List TraceEvent) :
    Confined reads writes fun w => ⟨e.apply w, trace⟩ := by
  refine run [e] (fun e' he' => ?_) trace
  rw [List.mem_singleton.1 he']
  exact h

theorem nothing : Confined reads writes fun w => ⟨w, []⟩ :=
  run [] (fun _ he => absurd he List.not_mem_nil) []

/-- It is enough to be, on any two worlds, the same confined step. -/
theorem of_agree (h : ∀ v w : World, v.AgreeOn reads w →
    ∃ g, Confined reads writes g ∧ f v = g v ∧ f w = g w) : Confined reads writes f := by
  intro v w hagree
  obtain ⟨g, hg, hv, hw⟩ := h v w hagree
  rw [hv, hw]
  exact hg v w hagree

/-- The same for a step that is about a unit and does nothing if there is none. -/
theorem of_unit (id : String) (hnone : ∀ w : World, w.unit? id = none → f w = ⟨w, []⟩)
    (hsome : ∀ (v w : World) (b c : Bag), v.AgreeOn reads w → v.unit? id = some b →
      w.unit? id = some c → ∃ g, Confined reads writes g ∧ f v = g v ∧ f w = g w) :
    Confined reads writes f := by
  refine of_agree fun v w h => ?_
  rcases h.unit?_cases id with ⟨hv, hw⟩ | ⟨b, c, hv, hw⟩
  · exact ⟨_, nothing, hnone v hv, hnone w hw⟩
  · exact hsome v w b c h hv hw

theorem mono {reads' writes' : List Key} (h : Confined reads writes f)
    (hreads : ∀ l, Covered reads l → Covered reads' l)
    (hwrites : ∀ l, Covered writes l → Covered writes' l) : Confined reads' writes' f := by
  intro v w hagree
  obtain ⟨es, trace, hes, hv, hw⟩ := h v w (hagree.mono hreads)
  exact ⟨es, trace, fun e he => hwrites _ (hes e he), hv, hw⟩

theorem andThen (hf : Confined reads writes f) (hg : Confined reads writes g) :
    Confined reads writes fun w => (f w).andThen g := by
  intro v w hagree
  obtain ⟨es, trace, hes, hfv, hfw⟩ := hf v w hagree
  obtain ⟨fs, trace', hfs, hgv, hgw⟩ := hg _ _ (hagree.run es)
  refine ⟨es ++ fs, trace ++ trace', ?_, ?_, ?_⟩
  · intro e he
    rcases List.mem_append.1 he with he | he
    · exact hes e he
    · exact hfs e he
  · show (f v).andThen g = _
    rw [hfv, Outcome.andThen, hgv, Edit.run_append]
  · show (f w).andThen g = _
    rw [hfw, Outcome.andThen, hgw, Edit.run_append]

theorem fold {α : Type} {step : α → World → Outcome} {l : List α}
    (h : ∀ a ∈ l, Confined reads writes (step a)) :
    Confined reads writes (Outcome.fold step l) := by
  induction l with
  | nil => exact nothing
  | cons a l ih =>
    exact (h a List.mem_cons_self).andThen (ih fun b hb => h b (List.mem_cons_of_mem a hb))

/-! ## What a confined step does -/

theorem sameFrame (h : Confined reads writes f) (w : World) : w.SameFrame (f w).world := by
  obtain ⟨es, trace, -, hw, -⟩ := h w w (.refl reads w)
  rw [hw]
  exact Edit.sameFrame_run es w

theorem hasHealth (h : Confined reads writes f) {w : World} (hw : w.HasHealth) :
    (f w).world.HasHealth := by
  obtain ⟨es, trace, -, hfw, -⟩ := h w w (.refl reads w)
  rw [hfw]
  exact Edit.hasHealth_run hw es

/-- Where a step does not write, nothing changes. -/
theorem content_eq (h : Confined reads writes f) {w : World} (hw : w.HasHealth) {l : Location}
    (hl : ¬Covered writes l) : (f w).world.content l = w.content l := by
  obtain ⟨es, trace, hes, hfw, -⟩ := h w w (.refl reads w)
  rw [hfw]
  exact Edit.content_run_of_ne (fun e he hle => hl (hle ▸ hes e he)) hw

/-- The same on every world for what is not health. -/
theorem content_eq_of_ne_health (h : Confined reads writes f) {l : Location}
    (hl : ¬Covered writes l) (hhp : ∀ p, l ≠ .var p Stat.hp) (w : World) :
    (f w).world.content l = w.content l := by
  obtain ⟨es, trace, hes, hfw, -⟩ := h w w (.refl reads w)
  rw [hfw]
  refine Edit.content_run_of_ne_of_ne_health (fun e he hle => ?_) hhp w
  exact hl (hle ▸ hes e he)

theorem trace_eq (h : Confined reads writes f) {v w : World} (hagree : v.AgreeOn reads w) :
    (f v).trace = (f w).trace := by
  obtain ⟨es, trace, -, hv, hw⟩ := h v w hagree
  rw [hv, hw]

/-- Worlds in agreement end alike at a location, or keep what each of them had. -/
theorem content_cases (h : Confined reads writes f) {v w : World} (hagree : v.AgreeOn reads w)
    (l : Location) :
    (f v).world.content l = (f w).world.content l ∨
      ((f v).world.content l = v.content l ∧ (f w).world.content l = w.content l) := by
  obtain ⟨es, trace, -, hv, hw⟩ := h v w hagree
  rw [hv, hw]
  exact Edit.content_run_cases hagree.toComparable es l

end Confined

end Skirmish
