import Skirmish.Proofs.Joining.Role
import Skirmish.Proofs.Source.Position
import Skirmish.Proofs.Source.Statement

/-!
# Faults in texts

Whatever is wrong with the text of a script or of a role, the error points into the text: at the
first character of the token that it is about, at the end if no token is left, or at the character
with which no token begins (`parse_error_place`).
-/

namespace Skirmish.Script

open Script.Parser

namespace Parser

/-! ## Scripts -/

theorem blames_integer (what : String) : Blames (integer what) :=
  .bind (.eat _) fun _ => .bind (.take _ _) fun _ => .pure _

theorem blames_metaTail (w : String) : Blames (metaTail w) := by
  unfold metaTail
  dsimp only
  split
  case h_5 | h_6 => exact .bind (blames_named _ _) fun _ => .pure _
  case h_7 => exact .pure _
  all_goals exact .bind (blames_integer _) fun _ => .pure _

/-- A negative number is blamed on the word of the metadata. -/
theorem blames_metadata? : Blames metadata? := by
  refine fun start input h => .here (.take? h (fun w l tail hnext hw htail => ?_) (.pure h))
  obtain ⟨hword, -⟩ := Option.filter_eq_some_iff.1 hw
  rw [word?_eq_some hword] at hnext
  refine (blames_metaTail w htail).bind fun (m, number) left _ hleft => ?_
  dsimp only
  split
  · exact .failAt h (hnext ▸ .negativeMeta w)
  · exact .pure hleft

theorem blames_scriptPiece (braced : Bool) : Blames (scriptPiece braced) := by
  refine .bind (.skipAll _) fun _ => .bind .peek? fun _ => ?_
  split
  · exact .pure _
  split
  · exact .pure _
  refine .bind blames_metadata? fun _ => ?_
  split
  · exact .pure _
  · exact .bind (blames_statementWithin maxNesting) fun _ => .pure _

theorem blames_script (braced : Bool) : Blames (script braced) :=
  .bind (.many (blames_scriptPiece braced)) fun _ => .pure _

/-! ## Roles -/

/-- Coordinates that are out of range are blamed on their parenthesis. -/
theorem blames_coordinates {start input : TokenList} (h : input.LeftOf start)
    (hparen : input.next? = some (.symbol .lparen)) : BlamesAt start (do
      skip
      let x ← integer "an x coordinate"
      expectSymbol .comma
      let y ← integer "a y coordinate"
      expectSymbol .rparen
      if x.toInt32.toInt64 = x ∧ y.toInt32.toInt64 = y then return .coord ⟨x.toInt32, y.toInt32⟩
      else Parser.failAt input.place .coordinateRange : Parser Value) input := by
  refine (Blames.skip h).bind fun _ _ _ hleft => (blames_integer _ hleft).bind fun x _ _ hleft => ?_
  refine (Blames.expect _ _ hleft).bind fun _ _ _ hleft => ?_
  refine (blames_integer _ hleft).bind fun y _ _ hleft => ?_
  refine (Blames.expect _ _ hleft).bind fun _ _ _ hleft => ?_
  split
  · exact .pure hleft
  · exact .failAt h (hparen ▸ .coordinateRange)

theorem blames_literal : Blames literal := by
  have hrejected : Blames (unexpected "a literal value" : Parser Value) := .unexpected _
  have htaken : ∀ v : Value, Blames (skip >>= fun _ => pure v) := fun v => .bind .skip fun _ => .pure v
  refine fun start input h => .here (.eat h (fun tail htail => .peek? ?_) fun _ => .peek? ?_)
  · cases tail.next? with
    | none => exact hrejected htail
    | some l =>
      cases l with
      | int n => exact htaken _ htail
      | float x => exact htaken _ htail
      | text s => exact hrejected htail
      | word w =>
        dsimp only
        split
        · exact hrejected htail
        · exact hrejected htail
      | symbol s => cases s <;> exact hrejected htail
  · cases hnext : input.next? with
    | none => exact hrejected h
    | some l =>
      cases l with
      | int n => exact htaken _ h
      | float x => exact htaken _ h
      | text s => exact htaken _ h
      | word w =>
        dsimp only
        split
        · exact htaken _ h
        · exact hrejected h
      | symbol s =>
        cases s with
        | lparen => exact blames_coordinates h hnext
        | _ => exact hrejected h

theorem blames_bracedItems {α : Type} (separator : Lexeme → Bool) {item : List α → Parser α}
    (hitem : ∀ items, Blames (item items)) : Blames (bracedItems separator item) := by
  rw [bracedItems_eq, seqLeft_eq_bind]
  refine .bind (.expect _ _) fun _ => .bind (.steps (fun items => ?_) _) fun _ =>
    .bind .skip fun _ => .pure _
  refine .bind (.skipAll _) fun _ => .bind .peek? fun _ => ?_
  split
  · exact .pure _
  · exact .bind (hitem items) fun _ => .pure _

theorem blames_roleVar : Blames roleVar :=
  .bind blames_varName fun _ => .bind (.expect _ _) fun _ => .bind blames_literal fun _ => .pure _

/-- The second skill of a name is blamed on its name. -/
theorem blames_roleSkill (earlier : List SkillSource) : Blames (roleSkill earlier) := by
  refine .bind (.expect _ _) fun _ =>
    .here_take (g := text?) fun start place tail name l hplace hnext hname htail => ?_
  split
  · refine .failAt hplace ?_
    rw [hnext, text?_eq_some hname]
    exact .duplicateSkill name
  · exact Blames.bind (.expect _ _) (fun _ => .bind (blames_script true) fun _ =>
      .bind (.expect _ _) fun _ => .pure _) htail

theorem blames_sectionTail {r : RoleSource} {w : String} {tail : Parser RoleSource}
    (h : sectionTail? r w = some tail) : Blames tail := by
  unfold sectionTail? at h
  split at h <;> cases h
  case h_1 => exact .bind (blames_text _) fun _ => .pure _
  case h_2 => exact .bind (blames_bracedItems _ fun _ => blames_roleVar) fun _ => .pure _
  case h_3 => exact .bind (blames_bracedItems _ fun _ => blames_text _) fun _ => .pure _
  case h_4 => exact .bind (blames_bracedItems _ blames_roleSkill) fun _ => .pure _

/-- A section that is there twice, or is none, is blamed on its word. -/
theorem blames_roleSection (state : List String × RoleSource) : Blames (roleSection state) := by
  refine .bind (.skipAll _) fun _ => .bind .peek? fun _ => ?_
  split
  · exact .pure _
  refine .here_take (g := word?) fun start place tail w l hplace hnext hw htail => ?_
  rw [word?_eq_some hw] at hnext
  split
  · exact .failAt hplace (hnext ▸ .duplicateSection w)
  split
  · exact .failAt hplace (hnext ▸ .unknownSection w)
  · next tail htail' => exact Blames.bind (blames_sectionTail htail') (fun _ => .pure _) htail

theorem blames_role : Blames role :=
  .bind (.expect _ _) fun _ => .bind (blames_text _) fun _ => .bind (.expect _ _) fun _ =>
    .bind (blames_text _) fun _ => .bind (.expect _ _) fun _ =>
    .bind (.steps blames_roleSection _) fun _ => .bind .skip fun _ => .bind (.skipAll _) fun _ =>
    .pure _

end Parser

/-! ## Whole texts -/

/-- A fault that begins with a character: a string, a number, or a character of no token. -/
inductive Fault.OfChar : Fault → Char → Prop
  | unexpectedChar (c : Char) : OfChar (.unexpectedChar c) c
  | unterminatedString : OfChar .unterminatedString '"'
  | invalidNumber (text : String) {c : Char} (h : c.isDigit) : OfChar (.invalidNumber text) c

theorem ofChar_of_lexeme {c : Char} {rest : List Char} {fault : Fault}
    (h : lexeme c rest = .error fault) : fault.OfChar c := by
  unfold lexeme at h
  split at h
  · next hquote =>
    split at h <;> cases h
    exact hquote ▸ .unterminatedString
  split at h
  · next hdigit =>
    cases hnumber : number (c :: rest) with
    | ok r =>
      rw [hnumber] at h
      cases h
    | error fault' =>
      rw [hnumber] at h
      cases h
      unfold number at hnumber
      dsimp only at hnumber
      split at hnumber
      · cases hnumber
        exact .invalidNumber _ hdigit
      · split at hnumber <;> cases hnumber
        exact .invalidNumber _ hdigit
  split at h
  · cases h
  · split at h <;> cases h
    exact .unexpectedChar c

/-- Where a fault is found in a text: at the first character of a token, at the end of the text if
no token is left, or at the first character that begins no token. -/
inductive FoundIn (text : List Char) : Nat → Fault → Prop
  | token {cut : List (Nat × Lexeme)} {i : Nat} {lex : Lexeme} {fault : Fault}
      (hcut : CutWhole text cut) (hmem : (i, lex) ∈ cut) (habout : fault.About (some lex)) :
      FoundIn text i fault
  | finish {cut : List (Nat × Lexeme)} {fault : Fault} (hcut : CutWhole text cut)
      (habout : fault.About none) : FoundIn text text.length fault
  | character {cut : List (Nat × Lexeme)} {k : Nat} {c : Char} {rest : List Char} {fault : Fault}
      (hcut : Cut text 0 cut k) (hrest : text.drop (tokenStart text k) = c :: rest)
      (hlex : lexeme c rest = .error fault) (hchar : fault.OfChar c) :
      FoundIn text (tokenStart text k) fault

variable {text : String} {e : ParseError}

/-- An error that is found where tokens of a text are left is found in the text. -/
theorem foundIn_of_foundAt {input place : TokenList} (hscan : scan text = .ok input)
    (hplace : place.LeftOf input) (he : e.FoundAt place) :
    ∃ i ≤ text.toList.length, e.pos = .ofIndex text.toList i ∧ FoundIn text.toList i e.fault := by
  obtain ⟨cut, hwhole, rfl⟩ := scan_eq_ok hscan
  obtain ⟨_ | ⟨t, tokens⟩, finish⟩ := place
  · refine ⟨_, Nat.le_refl _, he.pos.trans hplace.finish, .finish hwhole he.about⟩
  · obtain ⟨⟨i, lex⟩, hmem, ht⟩ := List.mem_map.1 (hplace.suffix.subset (.head _))
    have ⟨k, hcut, _⟩ := hwhole
    have hpos : e.pos = .ofIndex text.toList i := he.pos.trans (congrArg Token.pos ht.symm)
    have hlex : t.lexeme = lex := congrArg Token.lexeme ht.symm
    refine ⟨i, ?_, hpos, .token hwhole hmem (hlex ▸ he.about)⟩
    exact Nat.le_of_lt ((List.pairwise_append.1 hcut.pairwise).2.2 i (List.mem_map_of_mem hmem) _
      (.head _)).1

theorem parseText_error_place {α : Type} {p : Parser α} (hp : Blames p)
    (h : parseText p text = .error e) :
    ∃ i ≤ text.toList.length, e.pos = .ofIndex text.toList i ∧ FoundIn text.toList i e.fault := by
  obtain hscan | ⟨input, hscan, hrun | ⟨a, t, tokens, finish, hrun, rfl⟩⟩ := parseText_eq_error h
  · obtain ⟨cut, k, hcut, ⟨c, rest, hrest, hlex⟩, hpos⟩ := scan_eq_error hscan
    exact ⟨_, tokenStart_le (hcut.end_le (Nat.zero_le _)), hpos,
      .character hcut hrest hlex (ofChar_of_lexeme hlex)⟩
  · obtain ⟨place, hplace, he⟩ := (hp (.refl input)).error hrun
    exact foundIn_of_foundAt hscan hplace he
  · exact foundIn_of_foundAt hscan ((hp (.refl input)).ok hrun) ⟨rfl, .unexpected _ _⟩

/-- An error points at a token that it is about, at the end of the text if no token is left, or at
what is no token. So it never points beyond the text. -/
theorem parse_error_place (h : parseScript text = .error e ∨ parseRole text = .error e) :
    (∃ i ≤ text.toList.length, e.pos = .ofIndex text.toList i ∧ FoundIn text.toList i e.fault) ∧
    1 ≤ e.pos.line ∧ 1 ≤ e.pos.column ∧
    e.pos.atMost (.ofIndex text.toList text.toList.length) := by
  have hplace : ∃ i ≤ text.toList.length, e.pos = .ofIndex text.toList i ∧
      FoundIn text.toList i e.fault := by
    obtain h | h := h
    · exact parseText_error_place (blames_script false) h
    · exact parseText_error_place blames_role h
  refine ⟨hplace, ?_⟩
  obtain ⟨i, hi, hpos, -⟩ := hplace
  rw [hpos]
  exact ⟨Pos.line_ofIndex_pos _ _, Pos.column_ofIndex_pos _ _, Pos.ofIndex_atMost hi (Nat.le_refl _)⟩

/-- A role with two skills of one name, the second on a line of its own. -/
def twinSkills : String :=
  "role \"R\" id \"r\" \x7b skills \x7b skill \"A\" \x7b\x7d\n  skill \"A\" \x7b\x7d \x7d \x7d"

theorem parse_error_place_twins : ∃ e, parseRole twinSkills = .error e ∧
    e.fault = .duplicateSkill "A" ∧ e.pos = ⟨2, 9⟩ ∧
    ∃ i ≤ twinSkills.toList.length, e.pos = .ofIndex twinSkills.toList i ∧
      FoundIn twinSkills.toList i e.fault := by
  have hfound : (match parseRole twinSkills with
      | .ok _ => none
      | .error e => some e) = some ⟨.duplicateSkill "A", ⟨2, 9⟩⟩ := by decide +kernel
  cases hrun : parseRole twinSkills with
  | ok r =>
    rw [hrun] at hfound
    cases hfound
  | error e =>
    rw [hrun] at hfound
    obtain rfl := Option.some.inj hfound
    exact ⟨_, rfl, rfl, rfl, (parse_error_place (.inr hrun)).1⟩

end Skirmish.Script
