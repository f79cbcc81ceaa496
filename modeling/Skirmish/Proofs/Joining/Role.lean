import Skirmish.Proofs.Joining.Script
import Skirmish.Proofs.Joining.Warning
import Skirmish.Role

/-!
# Scripts inside roles

A script between the braces of a skill is what it is by itself, further down (`compile_around`): a
closing brace ends it exactly where the end of the text does.
-/

namespace Skirmish.Script

open Script.Parser

namespace Parser

variable {α σ : Type} {finish : Pos} {tokens rest : List Token} {a : α} {t : Token}

/-! ## Repetitions that end after one step -/

theorem steps_once {step : σ → Parser (Option σ)} {s s' : σ} {input mid left : TokenList}
    (hne : input.tokens ≠ []) (hstep : step s input = .ok (some s', mid))
    (hend : step s' mid = .ok (none, left)) : steps step s input = .ok (s', left) := by
  obtain ⟨_ | ⟨t, tokens⟩, finish⟩ := input
  · exact absurd rfl hne
  show stepsWithin step (tokens.length + 2) s _ = _
  rw [stepsWithin, bind_of_ok hstep]
  show stepsWithin step (tokens.length + 1) s' mid = _
  rw [stepsWithin, bind_of_ok hend]
  rfl

/-- One more item in braces, or none at the closing brace. -/
def bracedItem (separator : Lexeme → Bool) (item : List α → Parser α) (items : List α) :
    Parser (Option (List α)) := do
  skipAll separator
  if (← peek?) = some (.symbol .rbrace) then return none
  else return some (items ++ [← item items])

theorem bracedItems_eq (separator : Lexeme → Bool) (item : List α → Parser α) :
    bracedItems separator item =
      expectSymbol .lbrace >>= fun _ => steps (bracedItem separator item) [] <* skip := rfl

theorem bracedItem_of_ne {separator : Lexeme → Bool} {item : List α → Parser α} {items : List α}
    (hseparator : separator t.lexeme = false) (hbrace : t.lexeme ≠ .symbol .rbrace) :
    bracedItem separator item items ⟨t :: tokens, finish⟩ =
      ((fun a => some (items ++ [a])) <$> item items) ⟨t :: tokens, finish⟩ := by
  refine (bind_skipAll_ne hseparator).trans ?_
  show (if some t.lexeme = some (Lexeme.symbol .rbrace) then _ else _ : Parser _) _ = _
  rw [if_neg fun h => hbrace (Option.some.inj h)]
  rfl

theorem bracedItem_of_rbrace {separator : Lexeme → Bool} {item : List α → Parser α}
    {items : List α} (hseparator : separator (.symbol .rbrace) = false)
    (hbrace : t.lexeme = .symbol .rbrace) :
    bracedItem separator item items ⟨t :: tokens, finish⟩ = .ok (none, ⟨t :: tokens, finish⟩) := by
  refine (bind_skipAll_ne (hbrace ▸ hseparator)).trans ?_
  show (if some t.lexeme = some (Lexeme.symbol .rbrace) then _ else _ : Parser _) _ = _
  rw [if_pos (congrArg some hbrace)]
  rfl

/-- A single item in braces. -/
theorem bracedItems_one {separator : Lexeme → Bool} {item : List α → Parser α}
    {opening closing : Token} (hopening : opening.lexeme = .symbol .lbrace)
    (hclosing : closing.lexeme = .symbol .rbrace) (hend : separator (.symbol .rbrace) = false)
    (hseparator : separator t.lexeme = false) (hbrace : t.lexeme ≠ .symbol .rbrace)
    (h : item [] ⟨t :: tokens, finish⟩ = .ok (a, ⟨closing :: rest, finish⟩)) :
    bracedItems separator item ⟨opening :: t :: tokens, finish⟩ = .ok ([a], ⟨rest, finish⟩) := by
  have hsteps := steps_once (List.cons_ne_nil t tokens)
    ((bracedItem_of_ne hseparator hbrace).trans (map_of_ok h))
    (bracedItem_of_rbrace hend hclosing)
  rw [bracedItems_eq, expectSymbol, bind_expect_self hopening, seqLeft_eq_bind, bind_of_ok hsteps]
  rfl

/-! ## Scripts in braces -/

/-- A closing brace ends a script that stands in braces. -/
theorem many_scriptPiece_rbrace (hbrace : t.lexeme = .symbol .rbrace) :
    many (scriptPiece true) ⟨t :: rest, finish⟩ = .ok ([], ⟨t :: rest, finish⟩) := by
  have hend : scriptPiece true ⟨t :: rest, finish⟩ = .ok (none, ⟨t :: rest, finish⟩) := by
    have hsemi : t.lexeme ≠ .symbol .semi := by
      rw [hbrace]
      decide
    rw [scriptPiece_eq, bind_skipSemicolons_ne hsemi]
    show (if _ ∧ t.lexeme = .symbol .rbrace then pure none else _ : Parser (Option Piece)) _ = _
    rw [if_pos ⟨rfl, hbrace⟩]
    rfl
  rw [many_eq (productive_scriptPiece true), bind_of_ok hend]
  rfl

/-- A script that is whole by itself is read up to a closing brace. -/
theorem script_rbrace {pieces : List Piece} {f : Pos → Pos} {finish' : Pos}
    (h : many (scriptPiece false) ⟨tokens, finish'⟩ = .ok (pieces, ⟨[], finish'⟩))
    (hbrace : t.lexeme = .symbol .rbrace) :
    script true ⟨tokens.map (Token.moved f) ++ t :: rest, finish⟩ =
      .ok ((ofPieces pieces).moved f, ⟨t :: rest, finish⟩) := by
  have hmeets : Meets f pieceStarts [] (t :: rest) :=
    .next (hbrace ▸ by decide) rest
  have hmany := many_scriptPiece_append h hmeets true finish
  rw [map_of_ok (many_scriptPiece_rbrace hbrace), List.append_nil] at hmany
  rw [script_eq, map_of_ok hmany, ofPieces_moved]

/-! ## A role around a skill -/

/-- What stands in front of the script of the only skill of a role. -/
def roleFront (name id skill : String) : List Lexeme :=
  [.word "role", .text name, .word "id", .text id, .symbol .lbrace, .word "skills",
    .symbol .lbrace, .word "skill", .text skill, .symbol .lbrace]

/-- What stands behind it. -/
def roleBack : List Lexeme := List.replicate 3 (.symbol .rbrace)

theorem roleSkill_first {k : String} {s : Script} {closing : Token} {pos₁ pos₂ pos₃ : Pos}
    (h : script true ⟨tokens, finish⟩ = .ok (s, ⟨closing :: rest, finish⟩))
    (hclosing : closing.lexeme = .symbol .rbrace) :
    roleSkill [] ⟨⟨.word "skill", pos₁⟩ :: ⟨.text k, pos₂⟩ :: ⟨.symbol .lbrace, pos₃⟩ :: tokens,
      finish⟩ = .ok (⟨⟨k, pos₂⟩, s⟩, ⟨rest, finish⟩) := by
  show (script true >>= fun s => expectSymbol .rbrace >>= fun _ => pure ⟨⟨k, pos₂⟩, s⟩ :
    Parser SkillSource) ⟨tokens, finish⟩ = _
  rw [bind_of_ok h, expectSymbol, bind_expect_self hclosing]
  rfl

theorem roleSection_skills {r : RoleSource} {skills : List SkillSource} {left : TokenList}
    (pos : Pos)
    (h : bracedItems (· = .symbol .semi) roleSkill ⟨tokens, finish⟩ = .ok (skills, left)) :
    roleSection ([], r) ⟨⟨.word "skills", pos⟩ :: tokens, finish⟩ =
      .ok (some (["skills"], { r with skills }), left) := by
  refine (bind_skipSemicolons_ne (t := ⟨.word "skills", pos⟩) nofun).trans ?_
  have hrun : (bracedItems (· = .symbol .semi) roleSkill >>= fun skills =>
      pure { r with skills } : Parser RoleSource) ⟨tokens, finish⟩ = .ok ({ r with skills }, left) :=
    bind_of_ok h
  exact bind_of_ok (f := fun r => pure (some (["skills"], r))) hrun

theorem roleSection_rbrace {state : List String × RoleSource}
    (hbrace : t.lexeme = .symbol .rbrace) :
    roleSection state ⟨t :: rest, finish⟩ = .ok (none, ⟨t :: rest, finish⟩) := by
  have hsemi : t.lexeme ≠ .symbol .semi := by
    rw [hbrace]
    decide
  refine (bind_skipSemicolons_ne hsemi).trans ?_
  show (if some t.lexeme = some (Lexeme.symbol .rbrace) then _ else _ : Parser _) _ = _
  rw [if_pos (congrArg some hbrace)]
  rfl

/-- A role whose only section is a skill whose script is whole by itself. -/
theorem role_around {name id k : String} {front body back : List Token} {pieces : List Piece}
    {finish' : Pos} (f : Pos → Pos) (finish : Pos) (hfront : front.map Token.lexeme = roleFront name id k)
    (h : many (scriptPiece false) ⟨body, finish'⟩ = .ok (pieces, ⟨[], finish'⟩))
    (hback : back.map Token.lexeme = roleBack) :
    ∃ pos, role ⟨front ++ (body.map (Token.moved f) ++ back), finish⟩ =
      .ok ({ name, id, skills := [⟨⟨k, pos⟩, (ofPieces pieces).moved f⟩] }, ⟨[], finish⟩) := by
  simp only [roleFront, List.map_eq_cons_iff, List.map_eq_nil_iff] at hfront
  obtain ⟨⟨_, -⟩, _, rfl, rfl, ⟨_, -⟩, _, rfl, rfl, ⟨_, -⟩, _, rfl, rfl, ⟨_, -⟩, _, rfl, rfl,
    ⟨_, -⟩, _, rfl, rfl, ⟨_, start⟩, _, rfl, rfl, opening, _, rfl, hopening,
    ⟨_, skill⟩, _, rfl, rfl, ⟨_, pos⟩, _, rfl, rfl, ⟨_, brace⟩, _, rfl, rfl, rfl⟩ := hfront
  simp only [roleBack, List.replicate, List.map_eq_cons_iff, List.map_eq_nil_iff] at hback
  obtain ⟨ends, _, rfl, hends, closes, _, rfl, hcloses, last, _, rfl, hlast, rfl⟩ := hback
  have hskills : bracedItems (· = .symbol .semi) roleSkill
      ⟨opening :: ⟨.word "skill", skill⟩ :: ⟨.text k, pos⟩ :: ⟨.symbol .lbrace, brace⟩ ::
        (body.map (Token.moved f) ++ [ends, closes, last]), finish⟩ =
          .ok ([⟨⟨k, pos⟩, (ofPieces pieces).moved f⟩], ⟨[last], finish⟩) :=
    bracedItems_one hopening hcloses rfl rfl nofun (roleSkill_first (script_rbrace h hends) hends)
  have hsteps := steps_once (s := ([], { name, id })) (List.cons_ne_nil _ _)
    (roleSection_skills start hskills) (roleSection_rbrace hlast)
  refine ⟨pos, ?_⟩
  exact bind_of_ok (f := fun state => skip >>= fun _ => skipSemicolons >>= fun _ => pure state.2) hsteps

end Parser

variable {text head foot name id k : String} {s : Script} {front back : TokenList}

/-- The text of a role whose only section is a skill with a script on lines of its own. -/
def around (head text foot : String) : String := head ++ "\n" ++ text ++ "\n" ++ foot

theorem parseRole_around (h : parseScript text = .ok s) (hhead : scan head = .ok front)
    (hfront : front.tokens.map Token.lexeme = roleFront name id k)
    (hfoot : scan foot = .ok back) (hback : back.tokens.map Token.lexeme = roleBack) :
    ∃ pos, parseRole (around head text foot) =
      .ok { name, id, skills := [⟨⟨k, pos⟩, s.moved (Pos.down (linesOf head))⟩] } := by
  obtain ⟨⟨body, finish⟩, pieces, hscan, hpieces, rfl⟩ := parseScript_iff.1 h
  have hinner : scan (head ++ "\n" ++ text) = .ok
      ⟨front.tokens ++ body.map (Token.moved (Pos.down (linesOf head))),
        finish.down (linesOf head)⟩ := by
    rw [scan_newline hhead, hscan]
    rfl
  have houter := scan_newline hinner foot
  rw [hfoot] at houter
  generalize Pos.down (linesOf (head ++ "\n" ++ text)) = g at houter
  have hback' : (back.tokens.map (Token.moved g)).map Token.lexeme = roleBack := by
    rw [List.map_map]
    exact hback
  obtain ⟨pos, hrole⟩ := role_around (Pos.down (linesOf head)) (g back.finish) hfront hpieces hback'
  refine ⟨pos, ?_⟩
  rw [← List.append_assoc] at hrole
  unfold parseRole parseText around
  rw [houter]
  show (role ⟨front.tokens ++ body.map (Token.moved (Pos.down (linesOf head))) ++
    back.tokens.map (Token.moved g), g back.finish⟩ >>= _) = _
  rw [hrole]
  rfl

end Skirmish.Script

namespace Skirmish.Role

open Script (Pos SkillSource parseScript parseRole around linesOf scan Token TokenList)
open Script.Parser (roleFront roleBack)

variable {text head foot name id k : String} {s : Script} {front back : TokenList}

/-- A script that stands by itself is read as well as the only skill of a role, further down. So the
skill declares the same either way, and there is the same to warn about. -/
theorem compile_around (h : parseScript text = .ok s) (hhead : scan head = .ok front)
    (hfront : front.tokens.map Token.lexeme = roleFront name id k)
    (hfoot : scan foot = .ok back) (hback : back.tokens.map Token.lexeme = roleBack) :
    ∃ (source : Script.RoleSource) (pos : Pos) (role : Role) (inside alone : Skill),
      parseRole (around head text foot) = .ok source ∧
      source.skills = [⟨⟨k, pos⟩, s.moved (Pos.down (linesOf head))⟩] ∧
      compile (around head text foot) = .ok role ∧ role.skills = [inside] ∧
      Skill.compile k text = .ok alone ∧ inside.name = alone.name ∧
      inside.declared = alone.declared ∧
      inside.warnings = alone.warnings.map (Script.Located.moved (Pos.down (linesOf head))) := by
  obtain ⟨pos, hrole⟩ := Script.parseRole_around h hhead hfront hfoot hback
  have hcompiled : compile (around head text foot) = .ok (ofSource
      { name, id, skills := [⟨⟨k, pos⟩, s.moved (Pos.down (linesOf head))⟩] }) := by
    rw [compile, hrole]
    rfl
  have halone : Skill.compile k text = .ok (Skill.ofScript k s) := by
    rw [Skill.compile, h]
    rfl
  exact ⟨_, pos, _, _, _, hrole, rfl, hcompiled, rfl, halone, rfl, SkillMeta.ofScript_moved _ s,
    s.warnings_down (linesOf head)⟩

def boltFront : String := "role \"Mage\" id \"mage\" \x7b skills \x7b skill \"Bolt\" \x7b"

/-- A script with two mistakes. -/
def boltText : String := "range 3\nmin_range 5\nrepeat 0 times heal 1 to self"

theorem compile_around_bolt : ∃ (role : Role) (inside alone : Skill),
    compile (around boltFront boltText "\x7d\x7d\x7d") = .ok role ∧ role.skills = [inside] ∧
      Skill.compile "Bolt" boltText = .ok alone ∧ inside.declared = alone.declared ∧
      inside.warnings = alone.warnings.map (Script.Located.moved (Pos.down 1)) := by
  have hparse : (parseScript boltText).toOption.isSome := by decide +kernel
  have hlexemes : ((scan boltFront).toOption.map fun input => input.tokens.map Token.lexeme) =
      some (roleFront "Mage" "mage" "Bolt") := by decide +kernel
  have hfoot : scan "\x7d\x7d\x7d" = .ok ⟨[⟨.symbol .rbrace, ⟨1, 1⟩⟩, ⟨.symbol .rbrace, ⟨1, 2⟩⟩,
      ⟨.symbol .rbrace, ⟨1, 3⟩⟩], ⟨1, 4⟩⟩ := by decide +kernel
  cases h : parseScript boltText with
  | error e =>
    rw [h] at hparse
    cases hparse
  | ok s =>
    cases hhead : scan boltFront with
    | error e =>
      rw [hhead] at hlexemes
      cases hlexemes
    | ok front =>
      rw [hhead] at hlexemes
      obtain ⟨_, _, role, inside, alone, -, -, hrole, hskills, hskill, -, hdeclared, hwarnings⟩ :=
        compile_around h hhead (Option.some.inj hlexemes) hfoot rfl
      exact ⟨role, inside, alone, hrole, hskills, hskill, hdeclared, hwarnings⟩

end Skirmish.Role
