import Skirmish.Proofs.Number.Zero
import Skirmish.Proofs.Script.Meaning
import Skirmish.Script.Warning

/-!
# Control flow that constants decide

A script decides what to do at its statements and at the chances in its conditions: these are its
sites. At some of them a constant decides, once and for all (`Dead`). What a warning about a site
says is what the site does in every world (`Dead.obeys`). Only about empty blocks are there warnings
that are not about a site (`filter_stmtsWarnings`), and those about control flow are those about the
sites, in the order in which these stand in the script (`controlFlow_stmts`).
-/

namespace Skirmish.Script

/-! ## Sites -/

/-- Where a script may branch, repeat or group, at any depth. -/
inductive Site where
  | stmt (s : Located Stmt)
  /-- A chance in a condition. -/
  | chance (percent : Located Expr)

def Site.pos : Site → Pos
  | stmt s => s.pos
  | chance percent => percent.pos

def Cond.sites : Cond → List Site
  | chance percent => [.chance percent]
  | not c => c.sites
  | and lhs rhs | or lhs rhs => lhs.sites ++ rhs.sites
  | cmp .. | truthy _ | hasTag .. | globalHasTag _ => []

mutual

/-- The sites inside a statement. -/
def stmtSites : Stmt → List Site
  | .branch cond yes no => cond.sites ++ blockSites yes ++ elseSites no
  | .chance _ yes no => blockSites yes ++ elseSites no
  | .repeat _ body | .parallel body | .forEach _ body => blockSites body
  | .deal .. | .heal .. | .move .. | .dash .. | .line .. | .setVar .. | .addVar ..
  | .removeVar .. | .addTag .. | .removeTag .. | .consumeMp _ => []

def blockSites : Block → List Site
  | .mk _ _ stmts => stmtsSites stmts

def elseSites : Option Block → List Site
  | some b => blockSites b
  | none => []

/-- The sites of statements, each one in front of those inside it. -/
def stmtsSites : List (Located Stmt) → List Site
  | [] => []
  | ⟨stmt, pos⟩ :: rest => .stmt ⟨stmt, pos⟩ :: (stmtSites stmt ++ stmtsSites rest)

end

/-- All sites of a script. -/
def sites (s : Script) : List Site := stmtsSites s.stmts

/-! ## What constants decide -/

/-- A warning that a constant, or an empty body, decides what a site does. -/
inductive Dead : Site → Warning → Prop
  | thenBranch {percent yes no pos v} (h : percent.constant? = some v) (hle : v.asFloat ≤ 0.0) :
    Dead (.stmt ⟨.chance percent yes no, pos⟩) (.deadThen v.asFloat)
  | elseBranch {percent yes no pos v} (h : percent.constant? = some v) (hle : 100.0 ≤ v.asFloat) :
    Dead (.stmt ⟨.chance percent yes (some no), pos⟩) (.deadElse v.asFloat)
  | sure {percent yes pos v} (h : percent.constant? = some v) (hle : 100.0 ≤ v.asFloat) :
    Dead (.stmt ⟨.chance percent yes none, pos⟩) (.sureChance v.asFloat)
  | never {percent pos v} (h : percent.constant? = some v) (hle : v.asFloat ≤ 0.0) :
    Dead (.chance ⟨percent, pos⟩) (.alwaysFalse v.asFloat)
  | always {percent pos v} (h : percent.constant? = some v) (hle : 100.0 ≤ v.asFloat) :
    Dead (.chance ⟨percent, pos⟩) (.alwaysTrue v.asFloat)
  | noTimes {times body pos v} (h : times.constant? = some v) (hle : v.asInt ≤ 0) :
    Dead (.stmt ⟨.repeat times body, pos⟩) (.noRepetition v.asInt)
  | tooManyTimes {times body pos v} (h : times.constant? = some v) (hlt : maxRepeat < v.asInt) :
    Dead (.stmt ⟨.repeat times body, pos⟩) (.cappedRepetition v.asInt)
  | noStatements {braced start pos} : Dead (.stmt ⟨.parallel (.mk braced start []), pos⟩) .emptyParallel

/-- What a warning says about a site: what the site does, in every world and without a roll. -/
def Site.Obeys : Site → Warning → Prop
  | stmt ⟨.chance percent yes no, _⟩, .deadThen _ =>
    stepOf (.chance percent yes no) = (elseStep? no).getD .identity
  | stmt ⟨.chance percent yes no, _⟩, .deadElse _
  | stmt ⟨.chance percent yes no, _⟩, .sureChance _ =>
    stepOf (.chance percent yes no) = blockStep yes
  | chance percent, .alwaysFalse _ => ∀ b w, (Cond.chance percent).test b w = (w, false)
  | chance percent, .alwaysTrue _ => ∀ b w, (Cond.chance percent).test b w = (w, true)
  | stmt ⟨.repeat times body, _⟩, .noRepetition _ => stepOf (.repeat times body) = .identity
  | stmt ⟨.repeat times body, _⟩, .cappedRepetition _ =>
    ∀ rules b, stepOf (.repeat times body) rules b =
      Outcome.iterate (blockStep body rules b) maxRepeat.toInt.toNat
  | stmt ⟨.parallel body, _⟩, .emptyParallel => stepOf (.parallel body) = .identity
  | _, _ => False

theorem rollChance_of_le_zero {p : Float} (h : p ≤ 0.0) (w : World) :
    rollChance w p = (w, false) := by
  rw [rollChance, if_pos h]

theorem rollChance_of_hundred_le {p : Float} (h : 100.0 ≤ p) (w : World) :
    rollChance w p = (w, true) := by
  rw [rollChance, if_neg fun hle => Number.not_hundred_le hle h, if_pos h]

/-- A site does what a warning about it says. -/
theorem Dead.obeys {site : Site} {warning : Warning} (h : Dead site warning) :
    site.Obeys warning := by
  cases h with
  | thenBranch h hle =>
    funext rules b w
    rw [stepOf_chance, Expr.eval_of_constant? h, rollChance_of_le_zero hle]
    rfl
  | elseBranch h hle | sure h hle =>
    funext rules b w
    rw [stepOf_chance, Expr.eval_of_constant? h, rollChance_of_hundred_le hle]
    rfl
  | never h hle =>
    intro b w
    rw [Cond.test, Expr.eval_of_constant? h, rollChance_of_le_zero hle]
  | always h hle =>
    intro b w
    rw [Cond.test, Expr.eval_of_constant? h, rollChance_of_hundred_le hle]
  | noTimes h hle =>
    show stepOf _ = _
    unfold stepOf stmtStep?
    rw [h, Option.map_some, Option.any_some, if_pos (decide_eq_true hle), Option.getD_none]
  | tooManyTimes h hlt =>
    intro rules b
    funext w
    rw [Int64.lt_iff_toInt_lt] at hlt
    have hcount : maxRepeat.toInt = 1000 := rfl
    rw [stepOf_repeat, repeated_eq, Expr.eval_of_constant? h]
    congr 1
    omega
  | noStatements => rfl

/-! ## Warnings -/

/-- Whether a warning says that a branch, a repetition or a chance is decided. -/
def Warning.isControlFlow : Warning → Bool
  | emptyParallel | deadThen _ | deadElse _ | sureChance _ | alwaysFalse _ | alwaysTrue _
  | noRepetition _ | cappedRepetition _ => true
  | unreachableRange .. | ignoredRange _ | emptyBlock | negativeRange _ | negativeLimit _
  | lineWithoutDirection | coneWithoutDirection | coneWithoutAngle => false

/-- The warnings about one site. -/
def Site.warnings : Site → List (Located Warning)
  | stmt ⟨.chance percent _ no, pos⟩ =>
    chanceWarnings pos percent .deadThen (if no.isSome then .deadElse else .sureChance)
  | stmt ⟨.repeat times _, pos⟩ => repeatWarnings pos times
  | stmt ⟨.parallel (.mk _ _ stmts), pos⟩ =>
    if stmts.isEmpty then [⟨.emptyParallel, pos⟩] else []
  | stmt _ => []
  | chance percent => chanceWarnings percent.pos percent.node .alwaysFalse .alwaysTrue

/-- The warnings about control flow among warnings. -/
def controlFlow (l : List (Located Warning)) : List (Located Warning) :=
  l.filter (·.node.isControlFlow)

theorem controlFlow_append (l m : List (Located Warning)) :
    controlFlow (l ++ m) = controlFlow l ++ controlFlow m := List.filter_append ..

theorem controlFlow_eq_nil {l : List (Located Warning)}
    (h : ∀ x ∈ l, x.node.isControlFlow = false) : controlFlow l = [] :=
  List.filter_eq_nil_iff.2 fun x hx => by rw [h x hx]; exact Bool.false_ne_true

section Constant

variable {pos : Pos} {e : Expr} {v : Value} {none sure : Float → Warning}

theorem chanceWarnings_of_le_zero (h : e.constant? = some v) (hle : v.asFloat ≤ 0.0) :
    chanceWarnings pos e none sure = [⟨none v.asFloat, pos⟩] := by
  unfold chanceWarnings
  rw [h, Option.map_some]
  exact if_pos hle

theorem chanceWarnings_of_hundred_le (h : e.constant? = some v) (hle : 100.0 ≤ v.asFloat) :
    chanceWarnings pos e none sure = [⟨sure v.asFloat, pos⟩] := by
  unfold chanceWarnings
  rw [h, Option.map_some]
  exact (if_neg fun hzero => Number.not_hundred_le hzero hle).trans (if_pos hle)

theorem repeatWarnings_of_le_zero (h : e.constant? = some v) (hle : v.asInt ≤ 0) :
    repeatWarnings pos e = [⟨.noRepetition v.asInt, pos⟩] := by
  unfold repeatWarnings
  rw [h, Option.map_some]
  exact if_pos hle

theorem repeatWarnings_of_lt (h : e.constant? = some v) (hlt : maxRepeat < v.asInt) :
    repeatWarnings pos e = [⟨.cappedRepetition v.asInt, pos⟩] := by
  have hpos : ¬ v.asInt ≤ 0 := by
    rw [Int64.lt_iff_toInt_lt, show maxRepeat.toInt = 1000 from rfl] at hlt
    rw [Int64.le_iff_toInt_le, Int64.toInt_zero]
    omega
  unfold repeatWarnings
  rw [h, Option.map_some]
  exact (if_neg hpos).trans (if_pos hlt)

end Constant

theorem mem_chanceWarnings {pos : Pos} {percent : Expr} {none sure : Float → Warning}
    {x : Located Warning} (h : x ∈ chanceWarnings pos percent none sure) :
    ∃ v, percent.constant? = some v ∧
      (v.asFloat ≤ 0.0 ∧ x = ⟨none v.asFloat, pos⟩ ∨
        100.0 ≤ v.asFloat ∧ x = ⟨sure v.asFloat, pos⟩) := by
  unfold chanceWarnings at h
  split at h
  · next p hp =>
    obtain ⟨v, hv, rfl⟩ := Option.map_eq_some_iff.1 hp
    refine ⟨v, hv, ?_⟩
    split at h
    · next hle => exact .inl ⟨hle, List.mem_singleton.1 h⟩
    · split at h
      · next hle => exact .inr ⟨hle, List.mem_singleton.1 h⟩
      · cases h
  · cases h

theorem mem_repeatWarnings {pos : Pos} {times : Expr} {x : Located Warning}
    (h : x ∈ repeatWarnings pos times) :
    ∃ v, times.constant? = some v ∧
      (v.asInt ≤ 0 ∧ x = ⟨.noRepetition v.asInt, pos⟩ ∨
        maxRepeat < v.asInt ∧ x = ⟨.cappedRepetition v.asInt, pos⟩) := by
  unfold repeatWarnings at h
  split at h
  · next n hn =>
    obtain ⟨v, hv, rfl⟩ := Option.map_eq_some_iff.1 hn
    refine ⟨v, hv, ?_⟩
    split at h
    · next hle => exact .inl ⟨hle, List.mem_singleton.1 h⟩
    · split at h
      · next hlt => exact .inr ⟨hlt, List.mem_singleton.1 h⟩
      · cases h
  · cases h

/-- There are warnings about a site only if something is decided there. -/
theorem dead_of_mem_warnings {site : Site} {x : Located Warning} (h : x ∈ site.warnings) :
    x.pos = site.pos ∧ Dead site x.node := by
  unfold Site.warnings at h
  split at h
  · next percent yes no pos =>
    obtain ⟨v, hv, ⟨hle, rfl⟩ | ⟨hle, rfl⟩⟩ := mem_chanceWarnings h
    · exact ⟨rfl, .thenBranch hv hle⟩
    · cases no with
      | none => exact ⟨rfl, .sure hv hle⟩
      | some no => exact ⟨rfl, .elseBranch hv hle⟩
  · obtain ⟨v, hv, ⟨hle, rfl⟩ | ⟨hlt, rfl⟩⟩ := mem_repeatWarnings h
    · exact ⟨rfl, .noTimes hv hle⟩
    · exact ⟨rfl, .tooManyTimes hv hlt⟩
  · next braced start stmts pos =>
    cases stmts with
    | nil =>
      cases List.mem_singleton.1 h
      exact ⟨rfl, .noStatements⟩
    | cons s rest => cases h
  · cases h
  · obtain ⟨v, hv, ⟨hle, rfl⟩ | ⟨hle, rfl⟩⟩ := mem_chanceWarnings h
    · exact ⟨rfl, .never hv hle⟩
    · exact ⟨rfl, .always hv hle⟩

/-- Where something is decided, there is one warning that says so. -/
theorem Dead.warnings {site : Site} {warning : Warning} (h : Dead site warning) :
    site.warnings = [⟨warning, site.pos⟩] := by
  cases h with
  | thenBranch h hle | never h hle => exact chanceWarnings_of_le_zero h hle
  | elseBranch h hle | sure h hle | always h hle => exact chanceWarnings_of_hundred_le h hle
  | noTimes h hle => exact repeatWarnings_of_le_zero h hle
  | tooManyTimes h hlt => exact repeatWarnings_of_lt h hlt
  | noStatements => rfl

/-! ## The warnings of a script -/

theorem isControlFlow_of_mem_warnings {site : Site} {x : Located Warning}
    (h : x ∈ site.warnings) : x.node.isControlFlow := by
  obtain ⟨-, hdead⟩ := dead_of_mem_warnings h
  cases x with
  | mk warning pos => cases hdead <;> rfl

theorem controlFlow_site (site : Site) : controlFlow site.warnings = site.warnings :=
  List.filter_eq_self.2 fun _ => isControlFlow_of_mem_warnings

theorem controlFlow_selector (s : Selector) : controlFlow s.warnings = [] := by
  have hnegative : ∀ (e : Option (Located Expr)) (warning : Int64 → Warning),
      (∀ n, (warning n).isControlFlow = false) → controlFlow (negativeWarnings e warning) = [] := by
    intro e warning hwarning
    apply controlFlow_eq_nil
    unfold negativeWarnings
    grind
  have harea : ∀ (pos : Pos) (a : Area), controlFlow (areaWarnings pos a) = [] := by
    intro pos a
    apply controlFlow_eq_nil
    unfold areaWarnings
    grind [Warning.isControlFlow]
  unfold Selector.warnings
  rw [controlFlow_append, controlFlow_append, hnegative _ _ fun _ => rfl,
    hnegative _ _ fun _ => rfl]
  cases s.area with
  | none => rfl
  | some a => exact harea _ _

/-- The warnings about one site, with those about the selector of a loop. -/
def Site.allWarnings : Site → List (Located Warning)
  | stmt ⟨.forEach selector _, _⟩ => selector.node.warnings
  | site => site.warnings

theorem controlFlow_allWarnings (site : Site) : controlFlow site.allWarnings = site.warnings := by
  unfold Site.allWarnings
  split
  · exact controlFlow_selector _
  · exact controlFlow_site site

theorem allWarnings_cond (c : Cond) : c.warnings = c.sites.flatMap Site.allWarnings := by
  induction c with
  | chance percent => exact (List.append_nil _).symm
  | not c ih => exact ih
  | and lhs rhs hlhs hrhs | or lhs rhs hlhs hrhs =>
    rw [Cond.warnings, Cond.sites, List.flatMap_append, hlhs, hrhs]
  | cmp | truthy | hasTag | globalHasTag => rfl

section Filter

-- Only a block that is empty is warned about without being a site, so any part of the warnings
-- that leaves these out goes through the sites.
variable {p : Located Warning → Bool}

mutual

theorem filter_stmtWarnings (hp : ∀ pos, p ⟨.emptyBlock, pos⟩ = false) (pos : Pos) :
    (s : Stmt) → (stmtWarnings pos s).filter p =
      (Site.stmt ⟨s, pos⟩).allWarnings.filter p ++
        (stmtSites s).flatMap fun site => site.allWarnings.filter p
  | .branch cond yes no => by
    rw [stmtWarnings, stmtSites, List.filter_append, List.filter_append,
      filter_blockWarnings hp yes, filter_elseWarnings hp no, allWarnings_cond,
      List.filter_flatMap, List.flatMap_append, List.flatMap_append]
    rfl
  | .chance percent yes no => by
    rw [stmtWarnings, stmtSites, List.filter_append, List.filter_append,
      filter_blockWarnings hp yes, filter_elseWarnings hp no, List.flatMap_append,
      List.append_assoc]
    rfl
  | .repeat times body => by
    rw [stmtWarnings, stmtSites, List.filter_append, filter_blockWarnings hp body]
    rfl
  | .parallel (.mk braced start stmts) => by
    rw [stmtWarnings, stmtSites, blockSites, List.filter_append, filter_stmtsWarnings hp stmts]
    rfl
  | .forEach selector body => by
    rw [stmtWarnings, stmtSites, List.filter_append, filter_blockWarnings hp body]
    rfl
  | .deal .. | .heal .. | .move .. | .dash .. | .line .. | .setVar .. | .addVar ..
  | .removeVar .. | .addTag .. | .removeTag .. | .consumeMp _ => by
    rw [stmtWarnings, stmtSites]
    rfl

theorem filter_blockWarnings (hp : ∀ pos, p ⟨.emptyBlock, pos⟩ = false) :
    (block : Block) → (blockWarnings block).filter p =
      (blockSites block).flatMap fun site => site.allWarnings.filter p
  | .mk braced start stmts => by
    rw [blockWarnings, blockSites, List.filter_append, filter_stmtsWarnings hp stmts]
    split
    · rw [List.filter_cons_of_neg (ne_true_of_eq_false (hp start))]
      rfl
    · rfl

theorem filter_elseWarnings (hp : ∀ pos, p ⟨.emptyBlock, pos⟩ = false) :
    (no : Option Block) → (elseWarnings no).filter p =
      (elseSites no).flatMap fun site => site.allWarnings.filter p
  | none => by
    rw [elseWarnings, elseSites]
    rfl
  | some block => by rw [elseWarnings, elseSites, filter_blockWarnings hp block]

/-- The warnings about statements are those about the sites, but for empty blocks. -/
theorem filter_stmtsWarnings (hp : ∀ pos, p ⟨.emptyBlock, pos⟩ = false) :
    (l : List (Located Stmt)) → (stmtsWarnings l).filter p =
      (stmtsSites l).flatMap fun site => site.allWarnings.filter p
  | [] => by
    rw [stmtsWarnings, stmtsSites]
    rfl
  | ⟨stmt, pos⟩ :: rest => by
    rw [stmtsWarnings, stmtsSites, List.filter_append, filter_stmtWarnings hp pos stmt,
      filter_stmtsWarnings hp rest, List.flatMap_cons, List.flatMap_append, List.append_assoc]

end

end Filter

/-- A warning about statements is about a site, unless it is about an empty block. -/
theorem mem_stmtsWarnings_iff {l : List (Located Stmt)} {x : Located Warning}
    (h : x.node ≠ .emptyBlock) :
    x ∈ stmtsWarnings l ↔ ∃ site ∈ stmtsSites l, x ∈ site.allWarnings := by
  have hkept (m : List (Located Warning)) :
      x ∈ m.filter (fun y => decide (y.node ≠ .emptyBlock)) ↔ x ∈ m := by
    rw [List.mem_filter, decide_eq_true_eq]
    exact and_iff_left h
  rw [← hkept, filter_stmtsWarnings fun _ => rfl, List.mem_flatMap]
  simp only [hkept]

/-- The warnings about control flow are those about the sites. -/
theorem controlFlow_stmts (l : List (Located Stmt)) :
    controlFlow (stmtsWarnings l) = (stmtsSites l).flatMap Site.warnings := by
  rw [controlFlow, filter_stmtsWarnings fun _ => rfl]
  exact congrArg (stmtsSites l).flatMap (funext controlFlow_allWarnings)

end Skirmish.Script
