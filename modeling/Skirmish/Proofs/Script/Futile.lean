import Skirmish.Proofs.Grid.Distance
import Skirmish.Proofs.Script.Aim
import Skirmish.Proofs.Script.Declared
import Skirmish.Proofs.Script.Pick
import Skirmish.Proofs.Script.Site

/-!
# Warnings about aiming

A selector whose range or limit is below zero picks nobody (`Selector.pick_eq_nil_of_range`,
`Selector.pick_eq_nil_of_limit`). A skill whose least distance is above its range may be aimed at
nobody and nothing (`Skill.futile_of_lt`), unless it is aimed at its caster; then its distances play
no part at all (`Skill.ignoresRange_of_self`). These are the warnings about aiming, and they are
true (`Skill.aiming_warnings`).
-/

namespace Skirmish

namespace Script

/-! ## Selectors that pick nobody -/

/-- The selectors of the loops of a script, at any depth. -/
def selectors (s : Script) : List Selector :=
  s.sites.filterMap fun
    | .stmt ⟨.forEach selector _, _⟩ => some selector.node
    | _ => none

/-- A number of a selector is a constant below zero. -/
def Negative (e? : Option (Located Expr)) (n : Located Int64) : Prop :=
  ∃ e v, e? = some ⟨e, n.pos⟩ ∧ e.constant? = some v ∧ v.asInt = n.node ∧ n.node < 0

theorem Negative.eval {e? : Option (Located Expr)} {n : Located Int64} (h : Negative e? n)
    (w : World) (b : Bindings) :
    ∃ e, e? = some e ∧ (e.node.eval w b).asInt.toInt < 0 := by
  obtain ⟨e, v, he, hconstant, hn, hneg⟩ := h
  refine ⟨_, he, ?_⟩
  rw [Expr.eval_of_constant? hconstant, hn]
  exact Int64.lt_iff_toInt_lt.1 hneg

namespace Selector

variable {s : Selector} {n : Located Int64} {w : World} {b : Bindings}

theorem pick_eq_nil_of_range (h : Negative s.range n) : s.pick w b = [] := by
  obtain ⟨range, hrange, hneg⟩ := h.eval w b
  refine List.eq_nil_iff_forall_not_mem.2 fun id hid => ?_
  obtain ⟨rest, hline⟩ := exists_lineUp_eq_append s w b
  have hmem : id ∈ (s.lineUp w b).map Prod.fst := hline ▸ List.mem_append_left rest hid
  obtain ⟨⟨id, unit⟩, hu, rfl⟩ := List.mem_map.1 hmem
  obtain ⟨p, -, hwithin⟩ := (mem_lineUp_iff.1 hu).inRange range hrange
  rw [Metric.within, Bool.and_eq_true, decide_eq_true_eq, Int64.le_iff_toInt_le,
    Int64.toInt_zero] at hwithin
  omega

theorem pick_eq_nil_of_limit (h : Negative s.limit n) : s.pick w b = [] := by
  obtain ⟨limit, hlimit, hneg⟩ := h.eval w b
  rw [pick_eq, hlimit]
  dsimp only
  rw [Int.toNat_of_nonpos (by omega), List.take_zero]

end Selector

/-! ## Warnings about selectors -/

theorem mem_negativeWarnings_iff {e? : Option (Located Expr)} {warning : Int64 → Warning}
    {x : Located Warning} :
    x ∈ negativeWarnings e? warning ↔ ∃ n, Negative e? n ∧ x = ⟨warning n.node, n.pos⟩ := by
  unfold negativeWarnings
  constructor
  · intro h
    split at h
    · next e =>
      split at h
      · next n hn =>
        obtain ⟨v, hv, hasInt⟩ := Option.map_eq_some_iff.1 hn
        split at h
        · next hneg => exact ⟨⟨n, e.pos⟩, ⟨_, v, rfl, hv, hasInt, hneg⟩, List.mem_singleton.1 h⟩
        · cases h
      · cases h
    · cases h
  · rintro ⟨⟨n, pos⟩, ⟨e, v, rfl, hv, rfl, hneg⟩, rfl⟩
    dsimp only at hneg ⊢
    rw [hv, Option.map_some]
    dsimp only
    rw [if_pos hneg]
    exact List.mem_singleton_self _

/-- Whether a warning is about the parts that an area leaves out. -/
def Warning.isArea : Warning → Bool
  | lineWithoutDirection | coneWithoutDirection | coneWithoutAngle => true
  | _ => false

theorem isArea_of_mem_areaWarnings {pos : Pos} {a : Area} {x : Located Warning}
    (h : x ∈ areaWarnings pos a) : x.node.isArea = true := by
  unfold areaWarnings at h
  grind [Warning.isArea]

theorem Selector.mem_warnings_iff {s : Selector} {x : Located Warning}
    (harea : x.node.isArea = false) :
    x ∈ s.warnings ↔ (∃ n, Negative s.range n ∧ x = ⟨.negativeRange n.node, n.pos⟩) ∨
      ∃ n, Negative s.limit n ∧ x = ⟨.negativeLimit n.node, n.pos⟩ := by
  rw [warnings, List.mem_append, List.mem_append, mem_negativeWarnings_iff,
    mem_negativeWarnings_iff]
  refine or_iff_left fun hmem => ?_
  cases ha : s.area with
  | none =>
    rw [ha] at hmem
    cases hmem
  | some a =>
    rw [ha] at hmem
    exact ne_true_of_eq_false harea (isArea_of_mem_areaWarnings hmem)

/-- Whether a warning is about aiming. -/
def Warning.isAiming : Warning → Bool
  | unreachableRange .. | ignoredRange _ | negativeRange _ | negativeLimit _ => true
  | _ => false

theorem mem_warnings_iff {s : Script} {x : Located Warning} (haiming : x.node.isAiming = true) :
    x ∈ s.warnings ↔ x ∈ metaWarnings s.metas ∨ ∃ sel ∈ s.selectors, x ∈ sel.warnings := by
  have hblock : x.node ≠ .emptyBlock := by
    intro h
    rw [h] at haiming
    cases haiming
  rw [warnings, List.mem_mergeSort, List.mem_append, mem_stmtsWarnings_iff hblock]
  refine or_congr_right ⟨?_, ?_⟩
  · rintro ⟨site, hsite, hx⟩
    unfold Site.allWarnings at hx
    split at hx
    · exact ⟨_, List.mem_filterMap.2 ⟨_, hsite, rfl⟩, hx⟩
    · obtain ⟨-, hdead⟩ := dead_of_mem_warnings hx
      revert haiming
      generalize x.node = warning at hdead
      cases hdead <;> exact nofun
  · rintro ⟨sel, hsel, hx⟩
    obtain ⟨site, hsite, hsome⟩ := List.mem_filterMap.1 hsel
    refine ⟨site, hsite, ?_⟩
    split at hsome
    · cases hsome
      exact hx
    · cases hsome

/-- A warning about aiming is due: about a selector, or about the declarations that count. -/
inductive Aiming (s : Script) : Located Warning → Prop
  | negativeRange {sel n pos} (hsel : sel ∈ s.selectors) (h : Negative sel.range ⟨n, pos⟩) :
    Aiming s ⟨.negativeRange n, pos⟩
  | negativeLimit {sel n pos} (hsel : sel ∈ s.selectors) (h : Negative sel.limit ⟨n, pos⟩) :
    Aiming s ⟨.negativeLimit n, pos⟩
  | unreachableRange {low high pos pos'} (hlow : s.Counts .minRange ⟨low, pos⟩)
      (hhigh : s.Counts .range ⟨high, pos'⟩) (hlt : high < low) :
    Aiming s ⟨.unreachableRange low high, pos⟩
  | ignoredRange {n pos pos'} (hrange : s.Counts .range ⟨n, pos⟩)
      (hself : s.Counts .targeting ⟨.self, pos'⟩) (hne : n ≠ 0) :
    Aiming s ⟨.ignoredRange n, pos⟩

/-- A script warns about aiming exactly where such a warning is due. -/
theorem aiming_iff {s : Script} {x : Located Warning} (haiming : x.node.isAiming = true) :
    x ∈ s.warnings ↔ Aiming s x := by
  have harea : x.node.isArea = false := by
    cases hx : x.node <;> rw [hx] at haiming <;> first | rfl | cases haiming
  rw [mem_warnings_iff haiming, mem_metaWarnings_iff]
  simp only [Selector.mem_warnings_iff harea]
  constructor
  · rintro ((⟨low, high, hlow, hhigh, hlt, rfl⟩ | ⟨n, pos, hrange, hself, hne, rfl⟩) |
      ⟨sel, hsel, ⟨n, hn, rfl⟩ | ⟨n, hn, rfl⟩⟩)
    · exact .unreachableRange hlow hhigh hlt
    · exact .ignoredRange hrange hself hne
    · exact .negativeRange hsel hn
    · exact .negativeLimit hsel hn
  · intro h
    cases h with
    | negativeRange hsel hn => exact .inr ⟨_, hsel, .inl ⟨_, hn, rfl⟩⟩
    | negativeLimit hsel hn => exact .inr ⟨_, hsel, .inr ⟨_, hn, rfl⟩⟩
    | unreachableRange hlow hhigh hlt => exact .inl (.inl ⟨_, _, hlow, hhigh, hlt, rfl⟩)
    | ignoredRange hrange hself hne => exact .inl (.inr ⟨_, _, hrange, hself, hne, rfl⟩)

end Script

/-! ## Skills that may be aimed at nobody -/

theorem SkillMeta.not_reaches (m : SkillMeta) {high : Int64} (hrange : m.range = some high)
    (hlt : high < m.minRange) {start goal : Coord} : ¬ m.Reaches start goal := by
  rw [Reaches, hrange, Option.getD_some]
  exact m.metric.not_between start goal hlt

namespace Skill

open Script

variable {s : Skill} {w : World} {caster : String} {target : CastTarget}

/-- No unit and no place is ever taken by a skill. -/
def Futile (s : Skill) : Prop :=
  ∀ w caster target, target ≠ .none → s.validate w caster target ≠ .ok ()

/-- The range of a skill plays no part in whether it may be cast. -/
def IgnoresRange (s : Skill) : Prop :=
  ∀ range w caster target, ({ s with declared := { s.declared with range } }).validate w caster
    target = s.validate w caster target

/-- What may be cast has a target that is taken. -/
theorem takes_of_validate (h : s.validate w caster target = .ok ()) :
    ∃ unit, w.unit? caster = some unit ∧ Takes s.declared w caster unit target := by
  cases hunit : w.unit? caster with
  | none =>
    rw [validate_of_none hunit] at h
    cases h
  | some unit =>
    rw [validate_eq hunit] at h
    simp only [ite_error_eq_ok_iff] at h
    exact ⟨unit, rfl, (checkAim_eq_ok_iff hunit).1 h.2.2.2.2⟩

theorem reaches_of_takes {m : SkillMeta} {unit : Bag} (h : Takes m w caster unit target)
    (htarget : target ≠ .none) (hself : m.targeting ≠ .self) :
    ∃ start goal, m.Reaches start goal := by
  cases target with
  | none => exact absurd rfl htarget
  | point p => exact ⟨_, _, h.2⟩
  | unit id =>
    obtain ⟨u, -, -, -, hreach⟩ := h
    exact ⟨_, _, hreach hself⟩

theorem futile_of_lt {high : Int64} (hrange : s.declared.range = some high)
    (hlt : high < s.declared.minRange) (hself : s.declared.targeting ≠ .self) : s.Futile := by
  intro w caster target htarget hvalid
  obtain ⟨unit, -, htakes⟩ := takes_of_validate hvalid
  obtain ⟨start, goal, hreaches⟩ := reaches_of_takes htakes htarget hself
  exact s.declared.not_reaches hrange hlt hreaches

/-- For a skill that is aimed at its caster no distance counts. -/
theorem targetPlace_self {team : String} {place? : Option Coord}
    (h : targetPlace .self w caster team target = .ok place?) : place? = none := by
  cases target with
  | none => exact (Except.ok.inj h).symm
  | point p => cases h
  | unit id =>
    rw [targetPlace] at h
    split at h
    · exact (Except.ok.inj h).symm
    · cases h

theorem checkAim_of_self {unit : Bag} (hself : s.declared.targeting = .self) :
    s.checkAim w caster unit target =
      (targetPlace .self w caster unit.team target).map fun _ => () := by
  unfold checkAim
  rw [hself]
  cases hplace : targetPlace .self w caster unit.team target with
  | error e => rfl
  | ok place? =>
    obtain rfl := targetPlace_self hplace
    rfl

/-- Skills of one name that cost the same and are sealed for as long differ by their aims only. -/
theorem validate_congr {t : Skill} (hname : s.name = t.name)
    (hsealed : s.declared.sealedUntil = t.declared.sealedUntil)
    (hcost : s.declared.mpCost = t.declared.mpCost)
    (haim : ∀ unit, s.checkAim w caster unit target = t.checkAim w caster unit target) :
    s.validate w caster target = t.validate w caster target := by
  cases hunit : w.unit? caster with
  | none => rw [validate_of_none hunit, validate_of_none hunit]
  | some unit =>
    rw [validate_eq hunit, validate_eq hunit, readyAt, readyAt, hname, hsealed, hcost, haim]

theorem ignoresRange_of_self (hself : s.declared.targeting = .self) : s.IgnoresRange := by
  intro range w caster target
  refine validate_congr rfl rfl rfl fun unit => ?_
  rw [checkAim_of_self hself, checkAim_of_self]
  exact hself

/-! ## The warnings of a skill -/

/-- Warnings about aiming are true. One about a range or a limit of a selector stands where a selector
of the script has this constant below zero, and such a selector picks nobody. One about ranges that
exclude each other, or about a range that is ignored, stands at the last declaration of the least
distance or of the range, which is the one that the skill has taken over; then, unless the skill is
aimed at its caster, no unit and no place is ever taken, or every range does as well. -/
theorem aiming_warnings (name : String) (s : Script) (pos : Script.Pos) (n low high : Int64) :
    let skill := ofScript name s
    ((⟨.negativeRange n, pos⟩ ∈ skill.warnings ↔
        ∃ sel ∈ s.selectors, Negative sel.range ⟨n, pos⟩) ∧
      ∀ sel : Selector, Negative sel.range ⟨n, pos⟩ → ∀ w b, sel.pick w b = []) ∧
    ((⟨.negativeLimit n, pos⟩ ∈ skill.warnings ↔
        ∃ sel ∈ s.selectors, Negative sel.limit ⟨n, pos⟩) ∧
      ∀ sel : Selector, Negative sel.limit ⟨n, pos⟩ → ∀ w b, sel.pick w b = []) ∧
    ((⟨.unreachableRange low high, pos⟩ ∈ skill.warnings ↔
        s.Counts .minRange ⟨low, pos⟩ ∧ (∃ pos', s.Counts .range ⟨high, pos'⟩) ∧ high < low) ∧
      (⟨.unreachableRange low high, pos⟩ ∈ skill.warnings →
        skill.declared.minRange = low ∧ skill.declared.range = some high ∧
          (skill.declared.targeting ≠ .self → skill.Futile))) ∧
    ((⟨.ignoredRange n, pos⟩ ∈ skill.warnings ↔
        s.Counts .range ⟨n, pos⟩ ∧ (∃ pos', s.Counts .targeting ⟨.self, pos'⟩) ∧ n ≠ 0) ∧
      (⟨.ignoredRange n, pos⟩ ∈ skill.warnings →
        skill.declared.range = some n ∧ skill.declared.targeting = .self ∧
          skill.IgnoresRange)) := by
  intro skill
  have hdue {warning : Warning} (h : warning.isAiming = true) :
      ⟨warning, pos⟩ ∈ skill.warnings ↔ Aiming s ⟨warning, pos⟩ := aiming_iff h
  refine ⟨⟨?_, fun sel h w b => Selector.pick_eq_nil_of_range h⟩,
    ⟨?_, fun sel h w b => Selector.pick_eq_nil_of_limit h⟩, ⟨?_, fun h => ?_⟩, ?_, fun h => ?_⟩
  · rw [hdue rfl]
    exact ⟨fun | .negativeRange hsel h => ⟨_, hsel, h⟩, fun ⟨_, hsel, h⟩ => .negativeRange hsel h⟩
  · rw [hdue rfl]
    exact ⟨fun | .negativeLimit hsel h => ⟨_, hsel, h⟩, fun ⟨_, hsel, h⟩ => .negativeLimit hsel h⟩
  · rw [hdue rfl]
    exact ⟨fun | .unreachableRange hlow hhigh hlt => ⟨hlow, ⟨_, hhigh⟩, hlt⟩,
      fun ⟨hlow, ⟨_, hhigh⟩, hlt⟩ => .unreachableRange hlow hhigh hlt⟩
  · cases (hdue rfl).1 h with
    | unreachableRange hlow hhigh hlt =>
      have hleast := SkillMeta.minRange_ofScript hlow
      have hmost := SkillMeta.range_ofScript hhigh
      exact ⟨hleast, hmost, futile_of_lt hmost (hleast ▸ hlt)⟩
  · rw [hdue rfl]
    exact ⟨fun | .ignoredRange hrange hself hne => ⟨hrange, ⟨_, hself⟩, hne⟩,
      fun ⟨hrange, ⟨_, hself⟩, hne⟩ => .ignoredRange hrange hself hne⟩
  · cases (hdue rfl).1 h with
    | ignoredRange hrange hself hne =>
      have htargeting := SkillMeta.targeting_ofScript hself
      exact ⟨SkillMeta.range_ofScript hrange, htargeting, ignoresRange_of_self htargeting⟩

/-- A selector that picks nobody, for two reasons. -/
def nobody : Selector where
  pool := .enemies
  range := some ⟨.neg (.lit (.int 1)), ⟨4, 24⟩⟩
  limit := some ⟨.neg (.lit (.int 2)), ⟨4, 33⟩⟩

/-- A skill that reaches nobody, since a range is declared again. -/
def volley : Script where
  metas := [⟨.range 9, ⟨1, 1⟩⟩, ⟨.minRange 4, ⟨2, 1⟩⟩, ⟨.range 3, ⟨3, 1⟩⟩]
  stmts := [⟨.forEach ⟨nobody, ⟨4, 10⟩⟩ (.mk true ⟨4, 36⟩ []), ⟨4, 1⟩⟩]

/-- A skill that is aimed at its caster, though it has a range. -/
def focus : Script where
  metas := [⟨.targeting .self, ⟨1, 1⟩⟩, ⟨.range 3, ⟨2, 1⟩⟩]

theorem aiming_warnings_volley :
    (⟨.negativeRange (-1), ⟨4, 24⟩⟩ ∈ (ofScript "volley" volley).warnings ∧
      ⟨.negativeLimit (-2), ⟨4, 33⟩⟩ ∈ (ofScript "volley" volley).warnings ∧
      ∀ w b, nobody.pick w b = []) ∧
    (⟨.unreachableRange 4 3, ⟨2, 1⟩⟩ ∈ (ofScript "volley" volley).warnings ∧
      (ofScript "volley" volley).Futile) ∧
    ⟨.ignoredRange 3, ⟨2, 1⟩⟩ ∈ (ofScript "focus" focus).warnings ∧
      (ofScript "focus" focus).IgnoresRange := by
  have hmem : nobody ∈ volley.selectors := List.mem_singleton_self _
  have hnear : Negative nobody.range ⟨-1, ⟨4, 24⟩⟩ := ⟨_, .int (-1), rfl, rfl, rfl, by decide⟩
  have hfew : Negative nobody.limit ⟨-2, ⟨4, 33⟩⟩ := ⟨_, .int (-2), rfl, rfl, rfl, by decide⟩
  have hleast : volley.Counts .minRange ⟨4, ⟨2, 1⟩⟩ := ⟨[_], [_], rfl, by simp⟩
  have hmost : volley.Counts .range ⟨3, ⟨3, 1⟩⟩ := ⟨[_, _], [], rfl, nofun⟩
  have hself : focus.Counts .targeting ⟨.self, ⟨1, 1⟩⟩ := ⟨[], [_], rfl, by simp⟩
  have hignored : focus.Counts .range ⟨3, ⟨2, 1⟩⟩ := ⟨[_], [], rfl, nofun⟩
  obtain ⟨⟨hrange, hpick⟩, -⟩ := aiming_warnings "volley" volley ⟨4, 24⟩ (-1) 4 3
  obtain ⟨-, ⟨hlimit, -⟩, -⟩ := aiming_warnings "volley" volley ⟨4, 33⟩ (-2) 4 3
  obtain ⟨-, -, ⟨hunreachable, hfutile⟩, -⟩ := aiming_warnings "volley" volley ⟨2, 1⟩ 0 4 3
  obtain ⟨-, -, -, hignores, hwhole⟩ := aiming_warnings "focus" focus ⟨2, 1⟩ 3 0 0
  have hwarned := hunreachable.2 ⟨hleast, ⟨_, hmost⟩, by decide⟩
  have hwarned' := hignores.2 ⟨hignored, ⟨_, hself⟩, by decide⟩
  exact ⟨⟨hrange.2 ⟨_, hmem, hnear⟩, hlimit.2 ⟨_, hmem, hfew⟩, hpick _ hnear⟩,
    ⟨hwarned, (hfutile hwarned).2.2 nofun⟩, hwarned', (hwhole hwarned').2.2⟩

end Skill

end Skirmish
