import Skirmish.Proofs.Script.Places
import Skirmish.Proofs.Script.Position

/-!
# Warnings about control flow

In a script that was read, a warning about control flow stands at each site where a constant
decides, one and no more, and at no other; and such a site does what its warning says
(`controlFlow_warnings`).
-/

namespace Skirmish.Script

open Script.Parser

/-- The sites of a script have positions of their own. -/
theorem nodup_sites {text : String} {s : Script} (h : parseScript text = .ok s) :
    (s.sites.map Site.pos).Nodup := by
  obtain ⟨input, rest, hscan, hrun⟩ := parseText_eq_ok h
  obtain ⟨taken, htaken, -, hplaces⟩ := places_script false _ _ _ hrun
  have hnodup := nodup_scan hscan
  rw [htaken, List.map_append] at hnodup
  exact hplaces.nodup (List.nodup_append.1 hnodup).1

/-! ## The warnings of a script -/

theorem pairwise_warnings (s : Script) : s.warnings.Pairwise fun a b => a.pos.atMost b.pos := by
  apply List.pairwise_mergeSort
  · intro a b c
    simp only [Pos.atMost]
    grind
  · intro a b
    simp only [Pos.atMost]
    grind

theorem controlFlow_metas (metas : List (Located Meta)) : controlFlow (metaWarnings metas) = [] := by
  apply controlFlow_eq_nil
  unfold metaWarnings
  grind [Warning.isControlFlow]

/-- The warnings about control flow are those about the sites, in another order. -/
theorem perm_controlFlow (s : Script) :
    (controlFlow s.warnings).Perm (s.sites.flatMap Site.warnings) := by
  have hperm := List.mergeSort_perm (metaWarnings s.metas ++ stmtsWarnings s.stmts)
    fun a b => a.pos.atMost b.pos
  refine (hperm.filter _).trans (.of_eq ?_)
  show controlFlow _ = _
  rw [controlFlow_append, controlFlow_metas, controlFlow_stmts]
  rfl

/-- The warnings about control flow that stand at a position. -/
def controlFlowAt (s : Script) (pos : Pos) : List (Located Warning) :=
  (controlFlow s.warnings).filter (·.pos = pos)

/-- If sites have positions of their own, what stands at the position of a site is about it. -/
theorem filter_flatMap_warnings {l : List Site} (hnodup : (l.map Site.pos).Nodup) {site : Site}
    (hsite : site ∈ l) :
    (l.flatMap Site.warnings).filter (·.pos = site.pos) = site.warnings := by
  have hother : ∀ {other : Site}, other.pos ≠ site.pos →
      other.warnings.filter (·.pos = site.pos) = [] := by
    intro other hne
    refine List.filter_eq_nil_iff.2 fun x hx => ?_
    rw [(dead_of_mem_warnings hx).1, decide_eq_true_iff]
    exact hne
  induction l with
  | nil => cases hsite
  | cons first l ih =>
    rw [List.map_cons, List.nodup_cons] at hnodup
    obtain ⟨hfirst, hnodup⟩ := hnodup
    rw [List.flatMap_cons, List.filter_append]
    obtain rfl | hsite := List.mem_cons.1 hsite
    · have hself : site.warnings.filter (·.pos = site.pos) = site.warnings :=
        List.filter_eq_self.2 fun x hx => decide_eq_true (dead_of_mem_warnings hx).1
      have hrest : (l.flatMap Site.warnings).filter (·.pos = site.pos) = [] := by
        rw [List.filter_flatMap, List.flatMap_eq_nil_iff]
        intro other hmem
        exact hother fun heq => hfirst (heq ▸ List.mem_map_of_mem hmem)
      rw [hself, hrest, List.append_nil]
    · have hne : first.pos ≠ site.pos := fun heq => hfirst (heq ▸ List.mem_map_of_mem hsite)
      rw [hother hne, List.nil_append, ih hnodup hsite]

theorem perm_controlFlowAt {text : String} {s : Script} (h : parseScript text = .ok s) {site : Site}
    (hsite : site ∈ s.sites) : (s.controlFlowAt site.pos).Perm site.warnings := by
  refine ((perm_controlFlow s).filter _).trans (.of_eq ?_)
  exact filter_flatMap_warnings (nodup_sites h) hsite

/-- In a script that was read, the warnings are in the order of their positions. Where a constant
decides what a site does, there is one warning about control flow at its position, and the site does
what it says; at other sites there is none, and there is none that is not about a site. -/
theorem controlFlow_warnings {text : String} {s : Script} (h : parseScript text = .ok s) :
    (s.warnings.Pairwise fun a b => a.pos.atMost b.pos) ∧
    (∀ site ∈ s.sites, ∀ warning, Dead site warning →
      s.controlFlowAt site.pos = [⟨warning, site.pos⟩] ∧ site.Obeys warning) ∧
    (∀ site ∈ s.sites, (∀ warning, ¬ Dead site warning) → s.controlFlowAt site.pos = []) ∧
    ∀ x ∈ controlFlow s.warnings, ∃ site ∈ s.sites, site.pos = x.pos ∧ Dead site x.node := by
  refine ⟨pairwise_warnings s, fun site hsite warning hdead => ⟨?_, hdead.obeys⟩, ?_, ?_⟩
  · have hperm := perm_controlFlowAt h hsite
    rw [hdead.warnings] at hperm
    exact List.perm_singleton.1 hperm
  · intro site hsite halive
    have hnone : site.warnings = [] :=
      List.eq_nil_iff_forall_not_mem.2 fun x hx => halive _ (dead_of_mem_warnings hx).2
    have hperm := perm_controlFlowAt h hsite
    rw [hnone] at hperm
    exact hperm.eq_nil
  · intro x hx
    obtain ⟨site, hsite, hx⟩ := List.mem_flatMap.1 ((perm_controlFlow s).subset hx)
    obtain ⟨hpos, hdead⟩ := dead_of_mem_warnings hx
    exact ⟨site, hsite, hpos.symm, hdead⟩

/-- A loop that runs a thousand times, if at all. -/
def cappedText : String := "if turn then repeat 2000 times \x7b\x7d"

theorem controlFlow_warnings_capped :
    ∃ s, parseScript cappedText = .ok s ∧ ∃ site ∈ s.sites, site.pos = ⟨1, 14⟩ ∧
      s.controlFlowAt ⟨1, 14⟩ = [⟨.cappedRepetition 2000, ⟨1, 14⟩⟩] ∧
      site.Obeys (.cappedRepetition 2000) := by
  have hwarnings : (parseScript cappedText).toOption.map (fun s => s.sites.flatMap Site.warnings) =
      some [⟨.cappedRepetition 2000, ⟨1, 14⟩⟩] := by decide +kernel
  cases hparse : parseScript cappedText with
  | error e =>
    rw [hparse] at hwarnings
    cases hwarnings
  | ok s =>
    rw [hparse] at hwarnings
    have hlist : s.sites.flatMap Site.warnings = [⟨.cappedRepetition 2000, ⟨1, 14⟩⟩] :=
      Option.some.inj hwarnings
    obtain ⟨site, hsite, hwarning⟩ := List.mem_flatMap.1 (hlist ▸ List.mem_singleton_self _)
    obtain ⟨hpos, hcapped⟩ := dead_of_mem_warnings hwarning
    obtain ⟨-, hdead, -⟩ := controlFlow_warnings hparse
    obtain ⟨hat, hobeys⟩ := hdead site hsite _ hcapped
    rw [← hpos] at hat
    exact ⟨s, rfl, site, hsite, hpos.symm, hat, hobeys⟩

end Skirmish.Script
