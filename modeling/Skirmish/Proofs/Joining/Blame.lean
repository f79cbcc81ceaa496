import Skirmish.Proofs.Joining.Script
import Skirmish.Script.Warning

/-!
# Which token is to blame

A token that is not expected is one that no script has behind what stands in front of it
(`parseScript_blames`), unless a parenthesis is open that began an operand of a condition.
-/

namespace Skirmish.Script

open Script.Parser

namespace Parser

variable {f : Pos → Pos} {before : List Lexeme}

/-! ## Whole scripts on the same tokens -/

theorem tracks_scriptPiece : Tracks f [] before 0 (Option.Rel fun p p' => p' = p.moved f)
    (scriptPiece false) (scriptPiece false) := by
  rw [scriptPiece_eq]
  refine .bind_skipSemicolons (fun before finish => ?_) fun before t tokens finish _ => ?_
  · refine .same (q := pure none) (r := pure none) rfl (fun rest' finish' hmeets => ?_) (.pure .none)
    cases hmeets with
    | nothing => rfl
    | next h => cases h
  · have hbrace : ∀ t : Token, ¬ (false = true ∧ t.lexeme = .symbol .rbrace) :=
      fun _ h => Bool.false_ne_true h.1
    exact .same_cons (pieceRest_of_ne (hbrace t)) (fun _ _ => pieceRest_of_ne (hbrace _))
      ((tracksAt_piece.mono (fun _ h => (List.not_mem_nil h).elim) fun _ _ h => h).map
        fun _ _ h => .some h)

theorem tracks_script :
    Tracks f [] [] 0 (fun s s' => s' = s.moved f) (script false) (script false) := by
  rw [script_eq]
  refine .map (.many (productive_scriptPiece false) (productive_scriptPiece false)
    fun _ => tracks_scriptPiece) fun pieces pieces' hpieces => ?_
  have hmap : pieces' = pieces.map (Piece.moved f) := by
    induction hpieces with
    | nil => rfl
    | cons h _ ih => rw [h, ih, List.map_cons]
  rw [hmap]
  exact ofPieces_moved f pieces

end Parser

/-- Without their positions, tokens are their lexemes. -/
theorem unplaced_eq (tokens : List Token) :
    tokens.map (Token.moved fun _ => .start) = (tokens.map Token.lexeme).map (⟨·, .start⟩) := by
  rw [List.map_map]
  rfl

variable {text text' what : String} {input input' : TokenList} {l : Lexeme} {pos : Pos}

theorem parseScript_of_scan (h : scan text = .ok input) :
    parseScript text = (script false input).map Prod.fst := by
  unfold parseScript parseText
  rw [h]
  show (script false input >>= _) = _
  cases hrun : script false input with
  | error e => rfl
  | ok r =>
    obtain ⟨s, tokens, finish⟩ := r
    obtain rfl : tokens = [] := script_end hrun
    rfl

/-- What fails at a token fails on every input that has the lexemes up to there, if the token is not in
an operand of a condition in parentheses. -/
theorem script_blames (h : script false input = .error ⟨.unexpected what (some l), pos⟩) :
    ∃ before t behind, input.tokens = before ++ t :: behind ∧ t.lexeme = l ∧ t.pos = pos ∧
      (inTest (before.map Token.lexeme) = false → ∀ input' : TokenList,
        (before ++ [t]).map Token.lexeme <+: input'.tokens.map Token.lexeme →
          ∃ e, script false input' = .error e) := by
  -- both inputs are compared with what is left of them without positions
  obtain ⟨before, t, behind, htokens, hl, hpos, -, herror⟩ :=
    (tracks_script (f := fun _ => .start) input).error h
  refine ⟨before, t, behind, htokens, hl, hpos, fun htest input' hprefix => ?_⟩
  cases hrun' : script false input' with
  | error e => exact ⟨e, rfl⟩
  | ok r =>
    exfalso
    obtain ⟨s, left⟩ := r
    have hleft := script_end hrun'
    obtain ⟨taken, s', hinput, -, -, hok⟩ := (tracks_script (f := fun _ => .start) input').ok hrun'
    have haccept := hok [] .start (by rw [hleft]; exact .nothing)
    obtain ⟨more, hmore⟩ := hprefix
    have hsame : taken.map (Token.moved fun _ => .start) ++ [] =
        before.map (Token.moved fun _ => .start) ++
          t.moved (fun _ => .start) :: more.map (⟨·, .start⟩) := by
      have htaken : taken = input'.tokens := by rw [hinput, hleft, List.append_nil]
      rw [List.append_nil, htaken, unplaced_eq, ← hmore, List.map_append, List.map_append,
        List.map_append, ← unplaced_eq, List.append_assoc]
      rfl
    obtain ⟨e, hreject⟩ := herror htest (more.map (⟨·, .start⟩)) .start
    rw [hsame, hreject] at haccept
    cases haccept

/-- An error names a token of the text, and outside of an operand of a condition in parentheses no
script has this token behind what stands in front of it. -/
theorem parseScript_blames (hscan : scan text = .ok input)
    (h : parseScript text = .error ⟨.unexpected what (some l), pos⟩) :
    ∃ before t behind, input.tokens = before ++ t :: behind ∧ t.lexeme = l ∧ t.pos = pos ∧
      (inTest (before.map Token.lexeme) = false → ∀ text' input', scan text' = .ok input' →
        (before ++ [t]).map Token.lexeme <+: input'.tokens.map Token.lexeme →
          ∃ e, parseScript text' = .error e) := by
  have hrun : script false input = .error ⟨.unexpected what (some l), pos⟩ := by
    rw [parseScript_of_scan hscan] at h
    cases hrun : script false input with
    | error e =>
      rw [hrun] at h
      exact congrArg _ (Except.error.inj h)
    | ok r =>
      rw [hrun] at h
      cases h
  obtain ⟨before, t, behind, htokens, hl, hpos, herror⟩ := script_blames hrun
  refine ⟨before, t, behind, htokens, hl, hpos, fun htest text' input' hscan' hprefix => ?_⟩
  obtain ⟨e, hreject⟩ := herror htest input' hprefix
  refine ⟨e, ?_⟩
  rw [parseScript_of_scan hscan', hreject]
  rfl

/-- Without a parenthesis no operand is in one. -/
theorem inTest_of_notMem {ls : List Lexeme} (h : .symbol .lparen ∉ ls) : inTest ls = false := by
  refine List.any_eq_false.2 fun tail htail hopens => ?_
  unfold opensTest at hopens
  split at hopens
  · exact h (((List.mem_tails _ _).1 htail).subset (.tail _ (.head _)))
  · cases hopens

theorem parseScript_of_analyze {e : ParseError} (h : analyze text = [.error e]) :
    parseScript text = .error e := by
  unfold analyze at h
  cases hparse : parseScript text with
  | error e' =>
    rw [hparse] at h
    cases h
    rfl
  | ok s =>
    rw [hparse] at h
    obtain ⟨w, -, hw⟩ := List.mem_map.1 (h ▸ List.mem_singleton_self _)
    cases hw

/-- A text with a word that is not expected where a target is told. -/
theorem parseScript_blames_too : ∃ before t behind finish,
    scan "deal 5 damage too target" = .ok ⟨before ++ t :: behind, finish⟩ ∧
    t = ⟨.word "too", ⟨1, 15⟩⟩ ∧ ∀ text' input', scan text' = .ok input' →
      (before ++ [t]).map Token.lexeme <+: input'.tokens.map Token.lexeme →
        ∃ e, parseScript text' = .error e := by
  have hscan : scan "deal 5 damage too target" = .ok ⟨[⟨.word "deal", ⟨1, 1⟩⟩, ⟨.int 5, ⟨1, 6⟩⟩,
      ⟨.word "damage", ⟨1, 8⟩⟩, ⟨.word "too", ⟨1, 15⟩⟩, ⟨.word "target", ⟨1, 19⟩⟩], ⟨1, 25⟩⟩ := by
    decide +kernel
  have herror : parseScript "deal 5 damage too target" =
      .error ⟨.unexpected "`to`" (some (.word "too")), ⟨1, 15⟩⟩ :=
    parseScript_of_analyze (by decide +kernel)
  obtain ⟨before, ⟨_, _⟩, behind, htokens, rfl, rfl, hblames⟩ := parseScript_blames hscan herror
  refine ⟨before, _, behind, _, hscan.trans (by rw [← htokens]), rfl, hblames (inTest_of_notMem ?_)⟩
  intro hmem
  have hall := List.mem_append_left ((⟨.word "too", ⟨1, 15⟩⟩ :: behind).map Token.lexeme) hmem
  rw [← List.map_append, ← htokens] at hall
  exact absurd hall (by decide)

/-! ## A token that is blamed wrongly

In parentheses behind `if`, the first reading goes as far as what is wrong; its error is lost with it,
and the second reading stumbles over a word that the first one had read. -/

def wrongTag : String := "if (self has tag 5) then heal 1 to self"

def rightTag : String := "if (self has tag \"x\") then heal 1 to self"

theorem wrongTag_blames_has : ∃ before t behind finish input',
    scan wrongTag = .ok ⟨before ++ t :: behind, finish⟩ ∧
    parseScript wrongTag =
      .error ⟨.unexpected "`.` after a unit reference" (some t.lexeme), t.pos⟩ ∧
    scan rightTag = .ok input' ∧
    (before ++ [t]).map Token.lexeme <+: input'.tokens.map Token.lexeme ∧
    (parseScript rightTag).toOption.isSome := by
  refine ⟨[⟨.word "if", ⟨1, 1⟩⟩, ⟨.symbol .lparen, ⟨1, 4⟩⟩, ⟨.word "self", ⟨1, 5⟩⟩],
    ⟨.word "has", ⟨1, 10⟩⟩, [⟨.word "tag", ⟨1, 14⟩⟩, ⟨.int 5, ⟨1, 18⟩⟩, ⟨.symbol .rparen, ⟨1, 19⟩⟩,
      ⟨.word "then", ⟨1, 21⟩⟩, ⟨.word "heal", ⟨1, 26⟩⟩, ⟨.int 1, ⟨1, 31⟩⟩, ⟨.word "to", ⟨1, 33⟩⟩,
      ⟨.word "self", ⟨1, 36⟩⟩], ⟨1, 40⟩, ⟨[⟨.word "if", ⟨1, 1⟩⟩, ⟨.symbol .lparen, ⟨1, 4⟩⟩,
      ⟨.word "self", ⟨1, 5⟩⟩, ⟨.word "has", ⟨1, 10⟩⟩, ⟨.word "tag", ⟨1, 14⟩⟩, ⟨.text "x", ⟨1, 18⟩⟩,
      ⟨.symbol .rparen, ⟨1, 21⟩⟩, ⟨.word "then", ⟨1, 23⟩⟩, ⟨.word "heal", ⟨1, 28⟩⟩,
      ⟨.int 1, ⟨1, 33⟩⟩, ⟨.word "to", ⟨1, 35⟩⟩, ⟨.word "self", ⟨1, 38⟩⟩], ⟨1, 42⟩⟩,
    by decide +kernel, parseScript_of_analyze (by decide +kernel), by decide +kernel, by decide,
    by decide +kernel⟩

end Skirmish.Script
