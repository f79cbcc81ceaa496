import Skirmish.Proofs.Joining.Condition
import Skirmish.Proofs.Script.Places

/-!
# Statements elsewhere

A statement is read wherever its tokens stand (`tracks_statementWithin`). The words that go on with
one are none that a piece of a script begins with.
-/

namespace Skirmish.Script

open Script.Parser

namespace Parser

variable {f : Pos → Pos} {before : List Lexeme} {d : Nat} {levels : Nat} {pos finish : Pos}
  {t : Token} {tokens : List Token}

/-! ## Parts of statements -/

theorem tracks_damageKind : Tracks f pieceStarts before 0 Eq damageKind damageKind := by
  refine .bind_eq (.take? (by decide) fun m kind h => ?_) fun _ _ => .pure rfl
  have hword := List.find?_some h
  obtain rfl : m = .word kind.name := of_decide_eq_true hword
  rfl

/-- The opening parenthesis is in front. -/
theorem tracks_pointTail (levels : Nat) :
    Tracks f pieceStarts before 1 Eq (pointTail levels) (pointTail levels) :=
  .bind_eq (tracks_expr levels) fun _ _ => .bind_expect rfl <|
    .bind_eq (tracks_expr levels) fun _ _ => .bind_expect rfl (.pure rfl)

theorem tracks_scope (levels : Nat) :
    Tracks f pieceStarts before 0 Eq (scope levels) (scope levels) := by
  refine .bind_eat (by decide) rfl (.pure rfl) (.bind_eat (by decide) rfl ?_ ?_)
  · refine .bind_eat (by decide) rfl (.bind_eq tracks_reference fun _ _ => .pure rfl) ?_
    exact .bind_expect rfl (.bind_closed (tracks_pointTail levels) fun _ _ => .pure rfl)
  · exact .bind_eq tracks_reference fun _ _ => .pure rfl

theorem tracks_destination (levels : Nat) :
    Tracks f pieceStarts before 0 Eq (destination levels) (destination levels) := by
  refine .bind_eat (by decide) rfl (.bind_closed (tracks_pointTail levels) fun _ _ => .pure rfl) ?_
  exact .bind_eq tracks_reference fun _ _ => .pure rfl

theorem tracks_named {α : Type} (what : String) (ofName? : String → Option α) :
    Tracks f pieceStarts before 0 Eq (named what ofName?) (named what ofName?) := by
  refine .here (fun _ _ _ => nofun) fun pos => .bind_eq (.take fun m w h => ?_) fun w _ => ?_
  · cases m with
    | symbol s => cases h
    | _ => rfl
  · cases ofName? w with
    | some a => exact .pure rfl
    | none => exact .failAt nofun

theorem tracks_variableName : Tracks f pieceStarts before 0 Eq variableName variableName :=
  .bind_expect rfl (tracks_text _)

/-! ## Selectors -/

/-- A parser that takes the tokens that it tracks. -/
theorem Tracks.plain {α : Type} {follow : List Lexeme} {R : α → α → Prop} {p p' : Parser α}
    (h : Tracks f follow before d R p p') : Plain p := by
  intro input a left hrun
  obtain ⟨taken, _, rfl, -⟩ := (h input).ok hrun
  exact ⟨taken, rfl, rfl, trivial⟩

theorem tracks_optionsOf {σ : Type} {options : List (String × (σ → Parser σ))} (s : σ)
    (hwords : ∀ o ∈ options, .word o.1 ∉ pieceStarts)
    (hoptions : ∀ o ∈ options, ∀ s before, Tracks f pieceStarts before 0 Eq (o.2 s) (o.2 s)) :
    Tracks f pieceStarts before 0 Eq (optionsOf options s) (optionsOf options s) := by
  refine .steps ?productive ?productive (fun s s' hs before => ?_) rfl
  case productive =>
    intro s
    refine Takes.bind (.take? _) fun taken r hr => ?_
    obtain ⟨rfl, -⟩ | ⟨t, o, rfl, rfl, ho⟩ := hr
    · exact .pure nofun
    · refine Takes.bind (hoptions o (List.mem_of_find?_eq_some ho) s []).plain fun _ _ _ => ?_
      exact .pure fun _ => nofun
  subst hs
  refine .bind_take? (fun m hm => ?_) (fun m o ho => ⟨0, ?_, ?_⟩) (.pure .none)
  · refine List.find?_eq_none.2 fun o ho heq => hwords o ho ?_
    rwa [← of_decide_eq_true heq]
  · have hword := List.find?_some ho
    obtain rfl : m = .word o.1 := of_decide_eq_true hword
    rfl
  · exact .bind_eq (hoptions o (List.mem_of_find?_eq_some ho) s _) fun _ _ => .pure (.some rfl)

theorem tracks_direction : Tracks f pieceStarts before 0 Eq direction direction := tracks_named _ _

theorem tracks_lineArea (levels : Nat) :
    Tracks f pieceStarts before 0 Eq (lineArea levels) (lineArea levels) := by
  refine .bind_expect rfl (.bind_eq (tracks_expr levels) fun _ _ => ?_)
  refine .bind_eq (tracks_optionsOf _ (fun o ho => ?_) fun o ho s before => ?_)
    fun (_, _) _ => .pure rfl
  · rw [List.mem_cons, List.mem_singleton] at ho
    obtain rfl | rfl := ho
    · exact (by decide : .word "dir" ∉ pieceStarts)
    · exact (by decide : .word "width" ∉ pieceStarts)
  · rw [List.mem_cons, List.mem_singleton] at ho
    obtain rfl | rfl := ho
    · exact .bind_eq tracks_direction fun _ _ => .pure rfl
    · exact .bind_eq (tracks_expr levels) fun _ _ => .pure rfl

theorem tracks_coneArea (levels : Nat) :
    Tracks f pieceStarts before 0 Eq (coneArea levels) (coneArea levels) := by
  refine .bind_expect rfl (.bind_eq (tracks_expr levels) fun _ _ => ?_)
  refine .bind_eq (tracks_optionsOf _ (fun o ho => ?_) fun o ho s before => ?_)
    fun (_, _) _ => .pure rfl
  · rw [List.mem_cons, List.mem_singleton] at ho
    obtain rfl | rfl := ho
    · exact (by decide : .word "angle" ∉ pieceStarts)
    · exact (by decide : .word "dir" ∉ pieceStarts)
  · rw [List.mem_cons, List.mem_singleton] at ho
    obtain rfl | rfl := ho
    · exact .bind_eq (tracks_expr levels) fun _ _ => .pure rfl
    · exact .bind_eq tracks_direction fun _ _ => .pure rfl

theorem tracks_pool : Tracks f pieceStarts before 0 Eq pool pool := by
  refine .here (fun _ _ _ => nofun) fun pos => .bind_eq (.take fun m w h => ?_) fun w _ => ?_
  · cases m with
    | symbol s => cases h
    | _ => rfl
  · split
    · exact .pure rfl
    · exact .pure rfl
    · exact .pure rfl
    · exact .failAt nofun

/-- The word behind `in` decides; `range` and `line` begin pieces of scripts as well. -/
theorem tracks_restriction (levels : Nat) (pos : Pos) (s : Selector) :
    Tracks f pieceStarts before 0 (fun s s' => s' = s.moved f) (restriction levels pos s)
      (restriction levels (f pos) (s.moved f))
  | ⟨[], _⟩ => .ended rfl
  | ⟨t :: tokens, finish⟩ => by
    refine .eat (fun _ => ⟨0, rfl, ?_⟩) fun _ => .eat (fun _ => ⟨0, rfl, ?_⟩) fun _ =>
      .eat (fun _ => ⟨0, rfl, ?_⟩) fun _ => ?_
    · refine Tracks.bind_eq (tracks_expr levels) (fun _ _ => ?_) _
      exact .bind_eat (by decide) rfl (.bind_eq tracks_reference fun _ _ => .pure rfl) (.pure rfl)
    · refine Tracks.bind_eq (tracks_lineArea levels) (fun _ _ => ?_) _
      exact .pure rfl
    · refine Tracks.bind_eq (tracks_coneArea levels) (fun _ _ => ?_) _
      exact .pure rfl
    · exact Tracks.unexpected _ _

/-- The words that options of selectors begin with. -/
def optionWords : List String := ["nearest", "farthest", "limit", "with", "in"]

/-- Without a word for it there is no option more. -/
theorem selectorOption_none {input : TokenList} {s : Selector}
    (h : ∀ w ∈ optionWords, input.tokens.head?.map Token.lexeme ≠ some (.word w)) :
    selectorOption levels s input = .ok (none, input) := by
  have hhere : here input = .ok ((input.tokens.head?.map Token.pos).getD input.finish, input) := rfl
  unfold selectorOption eatWord
  rw [bind_of_ok hhere, bind_eat_none (h "nearest" (by decide)), if_neg Bool.false_ne_true,
    bind_eat_none (h "farthest" (by decide)), if_neg Bool.false_ne_true,
    bind_eat_none (h "limit" (by decide)), if_neg Bool.false_ne_true,
    bind_eat_none (h "with" (by decide)), if_neg Bool.false_ne_true,
    bind_eat_none (h "in" (by decide))]
  rfl

theorem tracks_selectorOption (levels : Nat) (s : Selector) :
    Tracks f pieceStarts before 0 (Option.Rel fun s s' => s' = s.moved f) (selectorOption levels s)
      (selectorOption levels (s.moved f))
  | ⟨[], finish⟩ => by
    refine .same (q := pure none) (r := pure none) (selectorOption_none nofun)
      (fun rest' finish' hmeets => selectorOption_none ?_) (.pure .none)
    cases hmeets with
    | nothing => exact nofun
    | next h rest' =>
      intro w hw heq
      have hother : ∀ w ∈ optionWords, .word w ∉ pieceStarts := by decide
      exact hother w hw (Option.some.inj heq ▸ h)
  | ⟨t :: tokens, finish⟩ => by
    refine .here (.eat (fun _ => ⟨0, rfl, .pure (.some rfl)⟩) fun _ =>
      .eat (fun _ => ⟨0, rfl, .pure (.some rfl)⟩) fun _ => .eat (fun _ => ⟨0, rfl, ?_⟩) fun _ =>
      .eat (fun _ => ⟨0, rfl, ?_⟩) fun _ => .eat (fun _ => ⟨0, rfl, ?_⟩) fun _ => .pure .none)
    · refine Tracks.bind_eq (tracks_expr levels) (fun _ _ => ?_) _
      exact .pure (.some rfl)
    · refine Tracks.bind_eq tracks_tagTest (fun _ _ => ?_) _
      exact .pure (.some rfl)
    · refine Tracks.bind (tracks_restriction levels t.pos s) (fun _ _ h _ => ?_) _
      exact .pure (.some h)

theorem Productive.eat {α : Type} {l : Lexeme} {j : Bool → Parser (Option α)}
    (htrue : Plain (j true)) (hfalse : Productive (j false)) :
    Productive (Parser.eat l >>= j) := by
  refine Takes.bind (.eat l) fun taken b hb => ?_
  obtain ⟨rfl, rfl⟩ | ⟨t, rfl, rfl, -⟩ := hb
  · exact hfalse
  · exact htrue.mono fun _ _ _ _ => nofun

theorem productive_selectorOption (levels : Nat) (s : Selector) :
    Productive (selectorOption levels s) := by
  refine Takes.here fun pos => Takes.mono (?_ : Productive _) fun _ _ h _ => h
  refine .eat (.pure _) (.eat (.pure _) (.eat ?_ (.eat ?_ (.eat ?_ (Takes.pure nofun)))))
  · exact .bind (plain_expr levels) fun _ => .pure _
  · exact .bind plain_tagTest fun _ => .pure _
  · exact .bind (plain_restriction levels pos s) fun _ => .pure _

/-- A selector begins at its first token. -/
theorem tracks_selector (levels : Nat) :
    Tracks f pieceStarts before 0 (fun s s' => s' = ⟨s.node.moved f, f s.pos⟩) (selector levels)
      (selector levels) := by
  refine .here (fun _ _ _ => nofun) fun pos => .bind_eq tracks_pool fun pool _ => ?_
  refine .bind (.steps (R := fun s s' => s' = s.moved f) (productive_selectorOption levels)
    (productive_selectorOption levels) (fun s s' hs before => ?_) rfl) fun s s' hs _ => ?_
  · subst hs
    exact tracks_selectorOption levels s
  · subst hs
    exact .pure rfl

/-! ## Semicolons -/

section Semicolons

variable {α : Type} {follow : List Lexeme} {R : α → α → Prop} {k k' : Unit → Parser α}

theorem bind_skipSemicolons_semi (h : t.lexeme = .symbol .semi) :
    (skipSemicolons >>= k) ⟨t :: tokens, finish⟩ = (skipSemicolons >>= k) ⟨tokens, finish⟩ := by
  have hdrop : (t :: tokens).dropWhile (fun t => decide (t.lexeme = .symbol .semi)) =
      tokens.dropWhile fun t => decide (t.lexeme = .symbol .semi) :=
    List.dropWhile_cons_of_pos (decide_eq_true h)
  exact congrArg (fun tokens => k () ⟨tokens, finish⟩) hdrop

theorem bind_skipAll_ne {passes : Lexeme → Bool} (h : passes t.lexeme = false) :
    (skipAll passes >>= k) ⟨t :: tokens, finish⟩ = k () ⟨t :: tokens, finish⟩ := by
  have hdrop : (t :: tokens).dropWhile (fun t => passes t.lexeme) = t :: tokens :=
    List.dropWhile_cons_of_neg (by rw [h]; exact Bool.false_ne_true)
  exact congrArg (fun tokens => k () ⟨tokens, finish⟩) hdrop

theorem bind_skipSemicolons_ne (h : t.lexeme ≠ .symbol .semi) :
    (skipSemicolons >>= k) ⟨t :: tokens, finish⟩ = k () ⟨t :: tokens, finish⟩ :=
  bind_skipAll_ne (decide_eq_false h)

/-- Semicolons are passed over, up to another token or the end. -/
theorem Tracks.bind_skipSemicolons
    (hnil : ∀ before finish, TracksAt f follow before d R (skipSemicolons >>= k)
      (skipSemicolons >>= k') ⟨[], finish⟩)
    (hcons : ∀ before t tokens finish, t.lexeme ≠ .symbol .semi →
      TracksAt f follow before d R (k ()) (k' ()) ⟨t :: tokens, finish⟩) :
    Tracks f follow before d R (skipSemicolons >>= k) (skipSemicolons >>= k') := by
  rintro ⟨tokens, finish⟩
  induction tokens generalizing before with
  | nil => exact hnil before finish
  | cons t tokens ih =>
    by_cases h : t.lexeme = .symbol .semi
    · exact .cons (by rw [h]; rfl) (bind_skipSemicolons_semi h)
        (fun _ _ => bind_skipSemicolons_semi (t := t.moved f) h) ih
    · exact .same_cons (bind_skipSemicolons_ne h)
        (fun _ _ => bind_skipSemicolons_ne (t := t.moved f) h) (hcons before t tokens finish h)

end Semicolons

/-! ## Bodies -/

/-- A statement in a block, or none where the block ends. -/
def blockRest (inner : Parser (Located Stmt)) : Parser (Option (Located Stmt)) := do
  match ← peek? with
  | some (.symbol .rbrace) => return none
  | some _ => return some (← inner)
  | none => unexpected "`\x7d`"

theorem bracedBlock_eq (inner : Parser (Located Stmt)) : bracedBlock inner = do
    let pos ← here
    expectSymbol .lbrace
    let stmts ← many (skipSemicolons >>= fun _ => blockRest inner)
    skip
    return .mk true pos stmts := rfl

theorem eq_map_of_forall₂ {α β : Type} {g : α → β} {l : List α} {m : List β}
    (h : List.Forall₂ (fun a b => b = g a) l m) : m = l.map g := by
  induction h with
  | nil => rfl
  | cons hab _ ih => rw [List.map_cons, hab, ih]

section Inner

variable {inner : Parser (Located Stmt)}

theorem blockRest_of_ne (h : t.lexeme ≠ .symbol .rbrace) :
    blockRest inner ⟨t :: tokens, finish⟩ = (some <$> inner) ⟨t :: tokens, finish⟩ := by
  obtain ⟨l, pos⟩ := t
  cases l with
  | symbol s =>
    cases s with
    | rbrace => exact absurd rfl h
    | _ => rfl
  | _ => rfl

/-- A block is read up to its closing brace. -/
theorem blockRest_eq_none {input left : TokenList} (h : blockRest inner input = .ok (none, left)) :
    ∃ t rest, left.tokens = t :: rest ∧ t.lexeme = .symbol .rbrace := by
  obtain ⟨_ | ⟨t, tokens⟩, finish⟩ := input
  · cases h
  by_cases hbrace : t.lexeme = .symbol .rbrace
  · obtain ⟨l, pos⟩ := t
    obtain rfl : l = .symbol .rbrace := hbrace
    cases h
    exact ⟨_, tokens, rfl, rfl⟩
  · rw [blockRest_of_ne hbrace] at h
    obtain ⟨_, -, h⟩ := map_eq_ok h
    cases h

variable (hinner : ∀ before, Tracks f pieceStarts before 0
    (fun s s' => s' = s.movedStmt f) inner inner)
  (hproductive : Takes inner fun taken _ => taken ≠ [])

section

include hproductive

theorem productive_blockItem : Productive (skipSemicolons >>= fun _ => blockRest inner) := by
  refine Takes.bind (.skipAll _) fun _ _ _ => .bind .peek? fun _ l? hl? => ?_
  split
  · exact .pure nofun
  · refine .bind hproductive fun taken s htaken => .pure fun _ => ?_
    simp [htaken]
  · exact .unexpected _

/-- What is left behind the statements of a block is its closing brace. -/
theorem end_of_block {input left : TokenList} {stmts : List (Located Stmt)}
    (hrun : many (skipSemicolons >>= fun _ => blockRest inner) input = .ok (stmts, left)) :
    ∃ t rest, left.tokens = t :: rest ∧ t.lexeme = .symbol .rbrace := by
  obtain ⟨mid, hend⟩ := many_end (productive_blockItem hproductive) hrun
  obtain ⟨_, mid, -, hend⟩ := bind_eq_ok.1 hend
  exact blockRest_eq_none hend

end

section

include hinner

theorem tracks_blockItem :
    Tracks f pieceStarts before 0 (Option.Rel fun s s' => s' = s.movedStmt f)
      (skipSemicolons >>= fun _ => blockRest inner) (skipSemicolons >>= fun _ => blockRest inner) := by
  refine .bind_skipSemicolons (fun _ _ => .ended rfl) fun before t tokens finish _ => ?_
  by_cases hbrace : t.lexeme = .symbol .rbrace
  · obtain ⟨l, pos⟩ := t
    obtain rfl : l = .symbol .rbrace := hbrace
    exact .same_cons (q := pure none) (r := pure none) rfl (fun _ _ => rfl) (.pure .none)
  · exact .same_cons (blockRest_of_ne hbrace) (fun _ _ => blockRest_of_ne (t := t.moved f) hbrace)
      ((hinner before).map (fun _ _ h => .some h) _)

end

include hinner hproductive

theorem tracks_bracedBlock :
    Tracks f pieceStarts before 0 (fun b b' => b' = movedBlock f b) (bracedBlock inner)
      (bracedBlock inner) := by
  rw [bracedBlock_eq]
  refine .here (fun _ _ _ => nofun) fun pos => .bind_expect rfl fun input => ?_
  have hitem := productive_blockItem hproductive
  refine (Tracks.many hitem hitem (fun _ => tracks_blockItem hinner) input).bind ?_
  intro stmts stmts' taken left hstmts hrun _
  obtain ⟨tokens, finish⟩ := left
  obtain ⟨t, rest, rfl, ht⟩ := end_of_block hproductive hrun
  refine .cons (q := pure (.mk true pos stmts)) (r := pure (.mk true (f pos) stmts'))
    (by rw [ht]; rfl) rfl (fun _ _ => rfl) (.pure ?_)
  rw [movedBlock, movedStmts_eq_map, eq_map_of_forall₂ hstmts]

theorem tracks_body : Tracks f pieceStarts before 0 (fun b b' => b' = movedBlock f b) (body inner)
    (body inner) := by
  refine .bind_peek? (fun m hm => ?_) fun l? => ?_
  · have hne : m ≠ .symbol .lbrace := by
      rintro rfl
      exact absurd hm (by decide)
    rw [if_neg fun h => hne (Option.some.inj h), if_neg nofun]
  split
  · exact tracks_bracedBlock hinner hproductive
  refine .here (fun finish b left hrun => ?_) fun pos => .bind (hinner _) fun s s' hs _ => .pure ?_
  · obtain ⟨s, mid, hstmt, -⟩ := bind_eq_ok.1 hrun
    obtain ⟨taken, htaken, -, hne⟩ := hproductive _ _ _ hstmt
    exact hne (List.append_eq_nil_iff.1 htaken.symm).1
  · rw [movedBlock, movedStmts_eq_map, hs]
    rfl

theorem tracks_elseBody : Tracks f pieceStarts before 0 (fun b b' => b' = movedElse f b)
    (elseBody inner) (elseBody inner) := by
  refine .bind_eat (by decide) rfl (.bind (tracks_body hinner hproductive) fun b b' hb _ => .pure ?_)
    (.pure ?_)
  · rw [movedElse, hb]
  · rw [movedElse]

theorem tracks_statementTail {w : String} {tail : Parser Stmt}
    (h : statementTail? levels inner w = some tail) (front : List Lexeme) :
    Tracks f pieceStarts (front ++ [.word w]) 0 (fun s s' => s' = movedStmt f s) tail tail := by
  unfold statementTail? at h
  split at h <;> cases h
  case h_1 => -- deal
    refine .bind_eq tracks_damageKind fun _ _ => .bind_eq (tracks_expr levels) fun _ _ =>
      .bind_expect rfl <| .bind_expect rfl <| .bind_eq tracks_reference fun _ _ => .pure ?_
    rw [movedStmt]
  case h_2 => -- heal
    refine .bind_eq (tracks_expr levels) fun _ _ => .bind_expect rfl <|
      .bind_eq tracks_reference fun _ _ => .pure ?_
    rw [movedStmt]
  case h_3 => -- move
    refine .bind_eq tracks_reference fun _ _ => .bind_expect rfl <|
      .bind_eq (tracks_destination levels) fun _ _ => .pure ?_
    rw [movedStmt]
  case h_4 => -- dash
    refine .bind_expect rfl <| .bind_eq tracks_reference fun _ _ => .bind_expect rfl <|
      .bind_expect rfl <| .bind_eq (tracks_expr levels) fun _ _ => .pure ?_
    rw [movedStmt]
  case h_5 => -- line
    refine .bind_eq tracks_damageKind fun _ _ => .bind_eq (tracks_expr levels) fun _ _ =>
      .bind_expect rfl <| .bind_eq tracks_reference fun _ _ => .bind_expect rfl <|
      .bind_eq (tracks_expr levels) fun _ _ => .bind_eat (by decide) rfl
        (.bind_eq (tracks_expr levels) fun _ _ => .pure ?_) (.pure ?_)
    · rw [movedStmt]
    · rw [movedStmt]
  case h_6 => -- set
    refine .bind_eq (tracks_scope levels) fun _ _ => .bind_eq tracks_variableName fun _ _ =>
      .bind_expect rfl <| .bind_eq (tracks_expr levels) fun _ _ => .pure ?_
    rw [movedStmt]
  case h_7 => -- add
    refine .bind_eq (tracks_scope levels) fun _ _ => .bind_eat (by decide) rfl
      (.bind_eq (tracks_text _) fun _ _ => .pure ?_)
      (.bind_eq tracks_variableName fun _ _ => .bind_expect rfl <|
        .bind_eq (tracks_expr levels) fun _ _ => .pure ?_)
    · rw [movedStmt]
    · rw [movedStmt]
  case h_8 => -- remove
    refine .bind_eq (tracks_scope levels) fun _ _ => .bind_eat (by decide) rfl
      (.bind_eq (tracks_text _) fun _ _ => .pure ?_)
      (.bind_eq tracks_variableName fun _ _ => .pure ?_)
    · rw [movedStmt]
    · rw [movedStmt]
  case h_9 => -- consume
    refine .bind_expect rfl <| .bind_expect rfl <| .bind_eq (tracks_expr levels) fun _ _ => .pure ?_
    rw [movedStmt]
  case h_10 => -- if
    refine .bind (tracks_condition levels (atTest_word (by decide) front)) fun _ _ hcond _ =>
      .bind_expect rfl <| .bind (tracks_body hinner hproductive) fun _ _ hyes _ =>
      .bind (tracks_elseBody hinner hproductive) fun _ _ hno _ => .pure ?_
    rw [movedStmt, hcond, hyes, hno]
  case h_11 => -- repeat
    refine .bind_eq (tracks_expr levels) fun _ _ => .bind_expect rfl <|
      .bind (tracks_body hinner hproductive) fun _ _ hbody _ => .pure ?_
    rw [movedStmt, hbody]
  case h_12 => -- parallel
    refine .bind (tracks_bracedBlock hinner hproductive) fun _ _ hbody _ => .pure ?_
    rw [movedStmt, hbody]
  case h_13 => -- for
    refine .bind_expect rfl <| .bind (tracks_selector levels) fun _ _ hselector _ =>
      .bind_expect rfl <| .bind (tracks_body hinner hproductive) fun _ _ hbody _ => .pure ?_
    rw [movedStmt, hselector, hbody]
  case h_14 => -- chance
    refine .bind_eq (tracks_expr levels) fun _ _ => .bind_expect rfl <| .bind_expect rfl <|
      .bind (tracks_body hinner hproductive) fun _ _ hyes _ =>
      .bind (tracks_elseBody hinner hproductive) fun _ _ hno _ => .pure ?_
    rw [movedStmt, hyes, hno]

omit hinner hproductive in
/-- The first word of a statement decides how it goes on. -/
theorem statement_word (w : String) : statement levels inner ⟨⟨.word w, pos⟩ :: tokens, finish⟩ =
    (if metaWords.contains w then fail (.nestedMeta w)
      else
        match statementTail? levels inner w with
        | none => fail (.unknownStatement w)
        | some tail => do
          skip
          return ⟨← tail, pos⟩ : Parser (Located Stmt)) ⟨⟨.word w, pos⟩ :: tokens, finish⟩ := rfl


theorem tracks_statement (levels : Nat) :
    Tracks f pieceStarts before 0 (fun s s' => s' = s.movedStmt f) (statement levels inner)
      (statement levels inner)
  | ⟨[], _⟩ => .ended rfl
  | ⟨⟨l, pos⟩ :: tokens, finish⟩ => by
    cases l with
    | word w =>
      refine .same_cons (statement_word w) (fun _ _ => statement_word w) ?_
      split
      · exact .failed rfl nofun
      cases htail : statementTail? levels inner w with
      | none => exact .failed rfl nofun
      | some tail =>
        refine .cons (q := do return ⟨← tail, pos⟩) (r := do return ⟨← tail, f pos⟩) rfl rfl
          (fun _ _ => rfl) ?_
        refine Tracks.bind (tracks_statementTail hinner hproductive htail before)
          (fun s s' hs _ => ?_) _
        exact .pure (by rw [hs]; rfl)
    | _ => exact .reject rfl fun _ _ => ⟨_, rfl⟩

end Inner

theorem takes_statementWithin (levels : Nat) :
    Takes (statementWithin levels) fun taken _ => taken ≠ [] := by
  refine (places_statementWithin levels).mono fun taken s hs => ?_
  rintro rfl
  change (places [s]).Sublist [] at hs
  rw [places_cons] at hs
  cases hs

theorem tracks_statementWithin (levels : Nat) :
    Tracks f pieceStarts before 0 (fun s s' => s' = s.movedStmt f) (statementWithin levels)
      (statementWithin levels) := by
  induction levels generalizing before with
  | zero =>
    refine tracks_statement (fun _ => ?_) (Takes.fail _) 0
    exact .fail nofun
  | succ levels ih => exact tracks_statement (fun _ => ih) (takes_statementWithin levels) (levels + 1)

end Parser

end Skirmish.Script
