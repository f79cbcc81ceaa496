import Skirmish.Proofs.Depth.Statement
import Skirmish.Proofs.Joining.Role

/-!
# How high the trees of texts grow

Every script and every role that is read has trees of bounded height, however long its text is. Blocks
with statements in them nest at most `maxNesting` deep (`parse_bounded`), blocks that may be empty one
level deeper (`hollow_nests_deeper`).
-/

namespace Skirmish.Script

open Script.Parser

/-- A statement of bounded height, in which blocks nest to a bounded depth. -/
structure Bounded (s : Stmt) : Prop where
  height : stmtHeight s ≤ 5 * (maxNesting + 1) ^ 2
  filled : stmtNesting 0 s ≤ maxNesting
  nesting : stmtNesting 1 s ≤ maxNesting + 1

theorem Fits.bounded {s : Stmt} (h : Fits (maxNesting + 1) s) : Bounded s :=
  ⟨Nat.le_trans h.height (by decide), Nat.le_of_lt_succ h.filled, h.nesting⟩

/-- All statements of a script are bounded. -/
def AllBounded (s : Script) : Prop := ∀ t ∈ s.stmts, Bounded t.node

namespace Parser

variable {α : Type} {P : α → Prop}

theorem gives_parseText {p : Parser α} {text : String} {a : α} (hp : Gives p P)
    (h : parseText p text = .ok a) : P a := by
  obtain ⟨input, rest, -, hrun⟩ := parseText_eq_ok h
  exact hp input a rest hrun

/-! ## Scripts -/

theorem gives_scriptPiece (braced : Bool) : Gives (scriptPiece braced) fun r =>
    ∀ piece ∈ r, ∀ s ∈ piece.statement?, Bounded s.node := by
  refine .after fun _ => .after fun _ => ?_
  split
  · exact .pure_none
  split
  · exact .pure_none
  refine .after fun _ => ?_
  split
  · exact .pure_some nofun
  · refine .bind (gives_statementWithin maxNesting) fun s hs => .pure_some fun t ht => ?_
    obtain rfl := Option.some.inj ht
    exact hs.bounded

theorem gives_script (braced : Bool) : Gives (script braced) AllBounded := by
  refine .bind (.many (gives_scriptPiece braced)) fun pieces hpieces => .pure fun s hs => ?_
  obtain ⟨piece, hmem, hpiece⟩ := List.mem_filterMap.1 hs
  exact hpieces piece hmem s hpiece

/-! ## Roles -/

theorem gives_bracedItems {separator : Lexeme → Bool} {item : List α → Parser α}
    (hitem : ∀ items, Gives (item items) P) :
    Gives (bracedItems separator item) fun l => ∀ a ∈ l, P a := by
  rw [bracedItems_eq, seqLeft_eq_bind]
  refine .after fun _ => .bind (.steps (List.forall_mem_nil P) fun items hitems => ?_) fun _ hl =>
    .after fun _ => .pure hl
  refine .after fun _ => .after fun _ => ?_
  split
  · exact .pure_none
  · exact .bind (hitem items) fun a ha => .pure_some (List.forall_mem_append.2
      ⟨hitems, List.forall_mem_singleton.2 ha⟩)

theorem gives_roleSkill (earlier : List SkillSource) :
    Gives (roleSkill earlier) fun skill => AllBounded skill.script := by
  refine .after fun _ => .after fun pos => .after fun name => ?_
  split
  · exact .failAt _ _
  · exact .after fun _ => .bind (gives_script true) fun s hs => .after fun _ => .pure hs

/-- Whatever section comes next, the skills that have been read stay bounded. -/
theorem gives_sectionTail {r : RoleSource} {w : String} {tail : Parser RoleSource}
    (hr : ∀ skill ∈ r.skills, AllBounded skill.script) (h : sectionTail? r w = some tail) :
    Gives tail fun r => ∀ skill ∈ r.skills, AllBounded skill.script := by
  unfold sectionTail? at h
  split at h <;> cases h
  case h_1 | h_2 | h_3 => exact .after fun _ => .pure hr
  case h_4 => exact .bind (gives_bracedItems gives_roleSkill) fun l hl => .pure hl

theorem gives_role : Gives role fun r => ∀ skill ∈ r.skills, AllBounded skill.script := by
  have hsections : ∀ state : List String × RoleSource,
      (∀ skill ∈ state.2.skills, AllBounded skill.script) → Gives (roleSection state)
        fun r => ∀ next ∈ r, ∀ skill ∈ next.2.skills, AllBounded skill.script := by
    intro state hstate
    refine .after fun _ => .after fun _ => ?_
    split
    · exact .pure_none
    refine .after fun pos => .after fun w => ?_
    split
    · exact .failAt _ _
    split
    · exact .failAt _ _
    · next tail htail => exact .bind (gives_sectionTail hstate htail) fun r hr => .pure_some hr
  refine .after fun _ => .after fun name => .after fun _ => .after fun id => .after fun _ =>
    .bind (.steps (List.forall_mem_nil _) hsections) fun r hr => .after fun _ => .after fun _ => .pure hr

end Parser

/-- However long a text is, the trees that it stands for are bounded. -/
theorem parse_bounded (text : String) :
    (∀ s, parseScript text = .ok s → AllBounded s) ∧
      ∀ r, parseRole text = .ok r → ∀ skill ∈ r.skills, AllBounded skill.script :=
  ⟨fun _ => gives_parseText (gives_script false), fun _ => gives_parseText gives_role⟩

/-- A role with a skill that has a block. -/
def healerText : String :=
  "role \"R\" id \"r\" \x7b skills \x7b skill \"A\" \x7b repeat 2 times heal 1 to it \x7d \x7d \x7d"

theorem parse_bounded_healer : ∃ r, parseRole healerText = .ok r ∧
    ∃ skill ∈ r.skills, skill.script.stmts.length = 1 ∧ AllBounded skill.script := by
  have hread : (parseRole healerText).toOption.any
      (·.skills.any (·.script.stmts.length == 1)) := by decide +kernel
  cases hparse : parseRole healerText with
  | error e =>
    rw [hparse] at hread
    cases hread
  | ok r =>
    rw [hparse] at hread
    obtain ⟨skill, hskill, hlength⟩ := List.any_eq_true.1 hread
    exact ⟨r, rfl, skill, hskill, beq_iff_eq.1 hlength, (parse_bounded healerText).2 r hparse skill hskill⟩

/-- An empty block in as many blocks as given. -/
def hollow (n : Nat) : String :=
  .ofList ((List.replicate n "repeat 1 times \x7b ".toList).flatten ++ "parallel \x7b\x7d".toList ++
    List.replicate n '\x7d')

/-- One block too many is read if it is empty. -/
theorem hollow_nests_deeper : ∃ s, parseScript (hollow maxNesting) = .ok s ∧
    ∃ t ∈ s.stmts, stmtNesting 1 t.node = maxNesting + 1 := by
  have hnested : (parseScript (hollow maxNesting)).toOption.any
      (·.stmts.any fun t => stmtNesting 1 t.node == maxNesting + 1) := by
    rw [parseScript, parseText, scan, hollow, String.toList_ofList]
    decide +kernel
  cases hparse : parseScript (hollow maxNesting) with
  | error e =>
    rw [hparse] at hnested
    cases hnested
  | ok s =>
    rw [hparse] at hnested
    obtain ⟨t, ht, hnesting⟩ := List.any_eq_true.1 hnested
    exact ⟨s, rfl, t, ht, beq_iff_eq.1 hnesting⟩

end Skirmish.Script
