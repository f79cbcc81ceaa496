import Skirmish.Proofs.Script.Site
import Skirmish.Proofs.Script.Taking

/-!
# Where the sites of a script lie

Every site of a script that is read begins at a token of its own (`places_statement`): its position
is that of the first token it takes, and sites further on take tokens further on.
-/

namespace Skirmish.Script

open Script.Parser

namespace Parser

variable {α β : Type}

/-- `p` takes tokens off the front of its input, and that is all there is to know about it. -/
def Plain (p : Parser α) : Prop := Takes p fun _ _ => True

/-- The places that a result tells are those seen before and positions of tokens that `p` took, in
their order. -/
def Places (seen : List Pos) (p : Parser α) (places : α → List Pos) : Prop :=
  Takes p fun ts a => (places a).Sublist (seen ++ ts.map Token.pos)

theorem Takes.plain {p : Parser α} {Q : List Token → α → Prop} (h : Takes p Q) : Plain p :=
  h.mono fun _ _ _ => trivial

namespace Plain

variable {p : Parser α} {f : α → Parser β}

theorem pure (a : α) : Plain (pure a) := Takes.pure trivial

theorem bind (hp : Plain p) (hf : ∀ a, Plain (f a)) : Plain (p >>= f) :=
  Takes.bind hp fun _ a _ => hf a

theorem eat (lex : Lexeme) : Plain (eat lex) := (Takes.eat lex).plain

theorem expect (lex : Lexeme) (what : String) : Plain (expect lex what) := Takes.expect lex what

theorem take? (f : Lexeme → Option α) : Plain (take? f) := (Takes.take? f).plain

theorem take (what : String) (f : Lexeme → Option α) : Plain (take what f) := (Takes.take what f).plain

theorem here {f : Pos → Parser β} (hf : ∀ pos, Plain (f pos)) : Plain (here >>= f) :=
  Takes.here fun pos => (hf pos).mono fun _ _ _ _ => trivial

theorem unexpected (what : String) : Plain (unexpected (α := α) what) := Takes.unexpected what

theorem failAt (pos : Pos) (fault : Fault) : Plain (failAt (α := α) pos fault) := Takes.failAt pos fault

theorem steps {σ : Type} {step : σ → Parser (Option σ)} {s : σ} (hstep : ∀ s, Plain (step s)) :
    Plain (steps step s) :=
  Takes.steps (I := fun _ _ => True) trivial fun _ s _ => hstep s

theorem chain {operator : Parser (Option (α → α → α))} {operand : Parser α}
    (hoperator : Plain operator) (hoperand : Plain operand) : Plain (chain operator operand) := by
  refine Takes.chain hoperand fun _ _ _ => Takes.mono hoperator fun _ r _ => ?_
  cases r with
  | none => trivial
  | some _ => exact hoperand

end Plain

namespace Places

variable {seen : List Pos} {p : Parser α} {f : α → Parser β} {places : α → List Pos}
  {others : β → List Pos}

theorem pure {a : α} (h : (places a).Sublist seen) : Places seen (pure a) places :=
  Takes.pure (by rwa [List.map_nil, List.append_nil])

theorem pure_nil {a : α} (h : places a = []) : Places seen (Pure.pure a) places :=
  pure (by rw [h]; exact List.nil_sublist _)

theorem bind (hp : Places [] p places) (hf : ∀ a, Places (seen ++ places a) (f a) others) :
    Places seen (p >>= f) others := by
  refine Takes.bind hp fun ts a ha => (hf a).mono fun us b hb => ?_
  rw [List.map_append, ← List.append_assoc]
  exact hb.trans (((List.Sublist.refl seen).append ha).append (List.Sublist.refl _))

/-- What is read without places adds tokens only. -/
theorem bind_takes {P : List Token → α → Prop} (hp : Takes p P)
    (hf : ∀ ts a, P ts a → Places seen (f a) others) : Places seen (p >>= f) others := by
  refine Takes.bind hp fun ts a ha => (hf ts a ha).mono fun us b hb => ?_
  rw [List.map_append]
  exact hb.trans ((List.Sublist.refl seen).append (List.sublist_append_right _ _))

theorem here {f : Pos → Parser β} (hf : ∀ pos, Places seen (f pos) others) :
    Places seen (here >>= f) others :=
  Takes.here fun pos => (hf pos).mono fun _ _ h _ => h

theorem bind_plain (hp : Plain p) (hf : ∀ a, Places seen (f a) others) :
    Places seen (p >>= f) others :=
  bind_takes hp fun _ a _ => hf a

end Places

end Parser

/-! ## Expressions -/

theorem plain_eatWord (w : String) : Plain (eatWord w) := .eat _

theorem plain_atRef : Plain atRef := .bind Takes.peek?.plain fun _ => .pure _

theorem plain_reference : Plain reference := by
  refine .here fun pos => .bind (.take _ _) fun w => ?_
  split
  · exact .pure _
  · exact .pure _
  · exact .pure _
  · exact .pure _
  · exact .bind (.take _ _) fun _ => .pure _
  · exact .failAt _ _

theorem plain_sum {operand : Parser Expr} (h : Plain operand) : Plain (sum operand) :=
  .chain (.take? _) (.chain (.take? _) h)

theorem plain_operand {inner : Parser Expr} (h : Plain inner) : Plain (operand inner) := by
  unfold operand
  refine .bind (.eat _) fun _ => ?_
  split
  · exact .bind h fun _ => .pure _
  refine .bind (.eat _) fun _ => ?_
  split
  · exact .bind (plain_sum h) fun _ => .bind (.expect _ _) fun _ => .pure _
  refine .bind (.take? _) fun _ => ?_
  split
  · exact .pure _
  refine .bind (.eat _) fun _ => ?_
  split
  · exact .pure _
  refine .bind (.eat _) fun _ => ?_
  split
  · exact .bind (.expect _ _) fun _ => .bind (.take _ _) fun _ => .pure _
  refine .bind plain_atRef fun _ => ?_
  split
  · exact .bind plain_reference fun _ => .bind (.expect _ _) fun _ => .bind (.take _ _) fun _ => .pure _
  · exact .unexpected _

theorem plain_expr (levels : Nat) : Plain (expr levels) := by
  have hoperand : ∀ levels, Plain (operandWithin levels) := by
    intro levels
    induction levels with
    | zero => exact plain_operand (.fail _)
    | succ levels ih => exact plain_operand ih
  exact plain_sum (hoperand levels)

/-! ## Conditions -/

/-- The positions of the sites of a condition. -/
def Cond.places (c : Cond) : List Pos := c.sites.map Site.pos

theorem plain_tagTest : Plain tagTest := .bind (.expect _ _) fun _ => .take _ _

/-- A test for a tag has no site. -/
theorem takes_globalHasTag? : Takes globalHasTag? fun _ r => ∀ c ∈ r, c.sites = [] := by
  unfold globalHasTag?
  refine .get fun input => ?_
  dsimp only
  split
  · refine .bind .skip fun _ _ _ => .bind .skip fun _ _ _ => .bind plain_tagTest fun _ _ _ => ?_
    exact .pure (by simp [Cond.sites])
  · exact .pure (by simp)

theorem takes_hasTag? : Takes hasTag? fun _ r => ∀ c ∈ r, c.sites = [] := by
  unfold hasTag?
  refine .bind plain_atRef fun _ _ _ => ?_
  split
  · exact .pure (by simp)
  intro input r rest hrun
  obtain ⟨start, mid, hget, hrun⟩ := bind_eq_ok.1 hrun
  cases hget
  obtain ⟨ref, mid, href, hrun⟩ := bind_eq_ok.1 hrun
  obtain ⟨has, last, hhas, hrun⟩ := bind_eq_ok.1 hrun
  cases has with
  | true =>
    obtain ⟨ts, hts, hfinish, -⟩ := plain_reference _ _ _ href
    obtain ⟨us, hus, hfinish', -⟩ := plain_eatWord _ _ _ _ hhas
    obtain ⟨tag, after, htag, hrun⟩ := bind_eq_ok.1 hrun
    obtain ⟨vs, hvs, hfinish'', -⟩ := plain_tagTest _ _ _ htag
    cases hrun
    refine ⟨ts ++ (us ++ vs), ?_, hfinish.trans (hfinish'.trans hfinish''), ?_⟩
    · rw [hts, hus, hvs, List.append_assoc, List.append_assoc]
    · simp [Cond.sites]
  | false =>
    -- what was read of the name of a unit is given back
    cases hrun
    exact ⟨[], rfl, rfl, by simp⟩

theorem places_chain {operator : Parser (Option (Cond → Cond → Cond))} {operand : Parser Cond}
    (hoperator : Takes operator fun _ r => ∀ f ∈ r, ∀ a b, (f a b).sites = a.sites ++ b.sites)
    (h : Places [] operand Cond.places) : Places [] (chain operator operand) Cond.places := by
  refine Takes.chain h fun ts a ha => hoperator.mono fun us r hr => ?_
  cases r with
  | none =>
    rw [List.map_append]
    exact ha.trans (List.sublist_append_left _ _)
  | some join =>
    refine h.mono fun vs b hb => ?_
    rw [Cond.places, hr join rfl, List.map_append, List.map_append, List.map_append]
    exact ha.append (hb.trans (List.sublist_append_right _ _))

theorem places_disjunction {operand : Parser Cond} (h : Places [] operand Cond.places) :
    Places [] (disjunction operand) Cond.places := by
  have hoperator : ∀ (w : String) (join : Cond → Cond → Cond),
      (∀ a b, (join a b).sites = a.sites ++ b.sites) →
      Takes (return if ← eatWord w then some join else none)
        fun _ r => ∀ f ∈ r, ∀ a b, (f a b).sites = a.sites ++ b.sites := by
    intro w join hjoin
    refine .bind (plain_eatWord w) fun _ b _ => .pure ?_
    cases b with
    | false => simp
    | true => simpa using hjoin
  exact places_chain (hoperator "or" .or fun _ _ => rfl)
    (places_chain (hoperator "and" .and fun _ _ => rfl) h)

theorem places_grouped? {inner : Parser Cond} (h : Places [] inner Cond.places) :
    Places [] (grouped? inner) fun r => r.toList.flatMap Cond.places := by
  unfold grouped?
  refine .bind_plain (.eat _) fun _ => ?_
  split
  · exact .pure (List.nil_sublist _)
  refine .bind h fun c => .bind_plain (.eat _) fun _ => .bind_plain Takes.peek?.plain fun _ => ?_
  split
  · exact .pure (by simp)
  · exact .pure (List.nil_sublist _)

/-- A chance in a condition begins at its own word. -/
theorem places_condOperand (levels : Nat) {inner : Parser Cond}
    (h : Places [] inner Cond.places) : Places [] (condOperand levels inner) Cond.places := by
  unfold condOperand
  refine Takes.here fun pos => .bind (.eat _) fun ts b hb => ?_
  obtain ⟨rfl, rfl⟩ | ⟨t, rfl, rfl, -⟩ := hb
  · refine .bind (.eat _) fun ts b hb => ?_
    obtain ⟨rfl, rfl⟩ | ⟨t, rfl, rfl, -⟩ := hb
    · -- no other condition needs to know where it begins
      refine Takes.mono (?_ : Places [] _ Cond.places) fun _ c hc _ => hc
      refine .bind_takes takes_globalHasTag? fun _ r hr => ?_
      split
      · next c => exact .pure_nil (by rw [Cond.places, hr c rfl, List.map_nil])
      refine .bind_takes takes_hasTag? fun _ r hr => ?_
      split
      · next c => exact .pure_nil (by rw [Cond.places, hr c rfl, List.map_nil])
      have hgrouped := (places_grouped? (places_disjunction h))
      refine .bind (Takes.attempt (List.nil_sublist _) hgrouped) fun r => ?_
      split
      · exact .pure (by simp)
      refine .bind_plain (plain_expr levels) fun lhs => .bind_plain (.take? _) fun op => ?_
      split
      · exact .bind_plain (plain_expr levels) fun rhs => .pure (List.nil_sublist _)
      · exact .pure (List.nil_sublist _)
    · refine .bind (plain_expr levels) fun us percent _ => .bind (.expect _ _) fun vs _ _ => .pure ?_
      intro hpos
      obtain rfl : t.pos = pos := hpos t rfl
      simp [Cond.places, Cond.sites, Site.pos]
  · refine .bind h fun us c hc => .pure fun _ => ?_
    show c.places.Sublist _
    simpa using hc.cons t.pos

theorem places_condition (levels : Nat) : Places [] (condition levels) Cond.places := by
  have hoperand : ∀ levels, Places [] (condOperandWithin levels) Cond.places := by
    intro levels
    induction levels with
    | zero => exact places_condOperand 0 (.fail _)
    | succ levels ih => exact places_condOperand (levels + 1) ih
  exact places_disjunction (hoperand levels)

/-! ## Parts of statements -/

theorem plain_damageKind : Plain damageKind := .bind (.take? _) fun _ => .pure _

theorem plain_pointTail (levels : Nat) : Plain (pointTail levels) :=
  .bind (plain_expr levels) fun _ => .bind (.expect _ _) fun _ =>
    .bind (plain_expr levels) fun _ => .bind (.expect _ _) fun _ => .pure _

theorem plain_scope (levels : Nat) : Plain (scope levels) := by
  refine .bind (plain_eatWord _) fun _ => ?_
  split
  · exact .pure _
  refine .bind (plain_eatWord _) fun _ => ?_
  split
  · refine .bind (plain_eatWord _) fun _ => ?_
    split
    · exact .bind plain_reference fun _ => .pure _
    · exact .bind (.expect _ _) fun _ => .bind (plain_pointTail levels) fun _ => .pure _
  · exact .bind plain_reference fun _ => .pure _

theorem plain_destination (levels : Nat) : Plain (destination levels) := by
  refine .bind (.eat _) fun _ => ?_
  split
  · exact .bind (plain_pointTail levels) fun _ => .pure _
  · exact .bind plain_reference fun _ => .pure _

theorem plain_named {α : Type} (what : String) (ofName? : String → Option α) :
    Plain (named what ofName?) := by
  refine .here fun _ => .bind (.take _ _) fun w => ?_
  split
  · exact .pure _
  · exact .failAt _ _

theorem plain_optionsOf {σ : Type} {options : List (String × (σ → Parser σ))} (s : σ)
    (h : ∀ o ∈ options, ∀ s, Plain (o.2 s)) : Plain (optionsOf options s) := by
  refine .steps fun s => ?_
  refine Takes.bind (Takes.take? _) fun ts r hr => ?_
  obtain ⟨rfl, -⟩ | ⟨t, o, rfl, -, ho⟩ := hr
  · exact .pure trivial
  · exact Plain.bind (h o (List.mem_of_find?_eq_some ho) s) fun _ => .pure _

theorem plain_lineArea (levels : Nat) : Plain (lineArea levels) := by
  refine .bind (.expect _ _) fun _ => .bind (plain_expr levels) fun _ =>
    .bind (plain_optionsOf _ fun o ho s => ?_) fun _ => .pure _
  rw [List.mem_cons, List.mem_singleton] at ho
  obtain rfl | rfl := ho
  · exact .bind (plain_named _ _) fun _ => .pure _
  · exact .bind (plain_expr levels) fun _ => .pure _

theorem plain_coneArea (levels : Nat) : Plain (coneArea levels) := by
  refine .bind (.expect _ _) fun _ => .bind (plain_expr levels) fun _ =>
    .bind (plain_optionsOf _ fun o ho s => ?_) fun _ => .pure _
  rw [List.mem_cons, List.mem_singleton] at ho
  obtain rfl | rfl := ho
  · exact .bind (plain_expr levels) fun _ => .pure _
  · exact .bind (plain_named _ _) fun _ => .pure _

theorem plain_pool : Plain pool := by
  refine .here fun _ => .bind (.take _ _) fun w => ?_
  split
  · exact .pure _
  · exact .pure _
  · exact .pure _
  · exact .failAt _ _

theorem plain_restriction (levels : Nat) (pos : Pos) (s : Selector) :
    Plain (restriction levels pos s) := by
  refine .bind (plain_eatWord _) fun _ => ?_
  split
  · refine .bind (plain_expr levels) fun _ => .bind (plain_eatWord _) fun _ => ?_
    split
    · exact .bind plain_reference fun _ => .pure _
    · exact .pure _
  refine .bind (plain_eatWord _) fun _ => ?_
  split
  · exact .bind (plain_lineArea levels) fun _ => .pure _
  refine .bind (plain_eatWord _) fun _ => ?_
  split
  · exact .bind (plain_coneArea levels) fun _ => .pure _
  · exact .unexpected _

theorem plain_selectorOption (levels : Nat) (s : Selector) : Plain (selectorOption levels s) := by
  refine .here fun pos => .bind (plain_eatWord _) fun _ => ?_
  split
  · exact .pure _
  refine .bind (plain_eatWord _) fun _ => ?_
  split
  · exact .pure _
  refine .bind (plain_eatWord _) fun _ => ?_
  split
  · exact .bind (plain_expr levels) fun _ => .pure _
  refine .bind (plain_eatWord _) fun _ => ?_
  split
  · exact .bind plain_tagTest fun _ => .pure _
  refine .bind (plain_eatWord _) fun _ => ?_
  split
  · exact .bind (plain_restriction levels pos s) fun _ => .pure _
  · exact .pure _

theorem plain_selector (levels : Nat) : Plain (selector levels) :=
  .here fun _ => .bind plain_pool fun _ => .bind (.steps (plain_selectorOption levels)) fun _ =>
    .pure _

theorem plain_variableName : Plain variableName := .bind (.expect _ _) fun _ => .take _ _

/-! ## Statements -/

/-- The positions of the sites inside a statement. -/
def Stmt.places (s : Stmt) : List Pos := (stmtSites s).map Site.pos

def Block.places (b : Block) : List Pos := (blockSites b).map Site.pos

def elsePlaces (no : Option Block) : List Pos := (elseSites no).map Site.pos

/-- The positions of the sites of statements. -/
def places (l : List (Located Stmt)) : List Pos := (stmtsSites l).map Site.pos

theorem places_nil : places [] = [] := by rw [places, stmtsSites, List.map_nil]

theorem places_cons (s : Located Stmt) (l : List (Located Stmt)) :
    places (s :: l) = s.pos :: s.node.places ++ places l := by
  rw [places, stmtsSites, List.map_cons, List.map_append]
  rfl

theorem places_append (l m : List (Located Stmt)) : places (l ++ m) = places l ++ places m := by
  induction l with
  | nil => rw [places_nil, List.nil_append, List.nil_append]
  | cons s l ih => rw [List.cons_append, places_cons, places_cons, ih, List.append_assoc]

theorem Block.places_mk (braced : Bool) (pos : Pos) (l : List (Located Stmt)) :
    (Block.mk braced pos l).places = Script.places l := by
  rw [Block.places, blockSites, Script.places]

theorem elsePlaces_none : elsePlaces none = [] := by rw [elsePlaces, elseSites, List.map_nil]

theorem elsePlaces_some (b : Block) : elsePlaces (some b) = b.places := by
  rw [elsePlaces, elseSites, Block.places]

/-- A statement is read by the tail that its first word has. -/
theorem statement_eq_ok {levels : Nat} {inner : Parser (Located Stmt)} {input rest : TokenList}
    {s : Located Stmt} (h : statement levels inner input = .ok (s, rest)) :
    ∃ t tokens w tail, input.tokens = t :: tokens ∧ s.pos = t.pos ∧
      statementTail? levels inner w = some tail ∧
      tail ⟨tokens, input.finish⟩ = .ok (s.node, rest) := by
  obtain ⟨pos, start, hhere, h⟩ := bind_eq_ok.1 h
  cases hhere
  obtain ⟨l, start, hpeek, h⟩ := bind_eq_ok.1 h
  cases hpeek
  obtain ⟨_ | ⟨t, tokens⟩, finish⟩ := input
  · cases h
  dsimp only [List.head?_cons, Option.map_some, Option.bind_some] at h
  cases hword : word? t.lexeme with
  | none =>
    rw [hword] at h
    cases h
  | some w =>
    rw [hword] at h
    dsimp only at h
    split at h
    · cases h
    cases htail : statementTail? levels inner w with
    | none =>
      rw [htail] at h
      cases h
    | some tail =>
      rw [htail] at h
      obtain ⟨_, start, hskip, h⟩ := bind_eq_ok.1 h
      cases hskip
      obtain ⟨node, last, hnode, h⟩ := bind_eq_ok.1 h
      cases h
      exact ⟨t, tokens, w, tail, rfl, rfl, htail, hnode⟩

theorem places_many {item : Parser (Option (Located Stmt))}
    (hitem : Places [] item fun r => places r.toList) : Places [] (many item) places := by
  refine Takes.many (by rw [places_nil]; exact List.nil_sublist _) fun ts l hl => ?_
  refine hitem.mono fun us r hr => ?_
  rw [places_append, List.map_append]
  exact hl.append hr

section Inner

variable {inner : Parser (Located Stmt)} (hinner : Places [] inner fun s => places [s])
include hinner

theorem places_bracedBlock : Places [] (bracedBlock inner) Block.places := by
  refine .here fun pos => .bind_plain (.expect _ _) fun _ => .bind (places_many ?_) fun l => ?_
  · refine .bind_plain (Takes.skipAll _) fun _ => .bind_plain Takes.peek?.plain fun _ => ?_
    split
    · exact .pure_nil places_nil
    · exact .bind hinner fun s => .pure (List.Sublist.refl _)
    · exact Takes.unexpected _
  · exact .bind_plain Takes.skip fun _ => .pure (by rw [Block.places_mk]; exact List.Sublist.refl _)

theorem places_body : Places [] (body inner) Block.places := by
  refine .bind_plain Takes.peek?.plain fun _ => ?_
  split
  · exact places_bracedBlock hinner
  · refine .here fun pos => .bind hinner fun s => .pure ?_
    rw [Block.places_mk]
    exact List.Sublist.refl _

theorem places_elseBody : Places [] (elseBody inner) elsePlaces := by
  refine .bind_plain (plain_eatWord _) fun _ => ?_
  split
  · refine .bind (places_body hinner) fun b => .pure ?_
    rw [elsePlaces_some]
    exact List.Sublist.refl _
  · exact .pure_nil elsePlaces_none

theorem places_statementTail {levels : Nat} {w : String} {tail : Parser Stmt}
    (h : statementTail? levels inner w = some tail) : Places [] tail Stmt.places := by
  unfold statementTail? at h
  split at h <;> cases h
  case h_1 => -- deal
    exact .bind_plain plain_damageKind fun _ => .bind_plain (plain_expr levels) fun _ =>
      .bind_plain (.expect _ _) fun _ => .bind_plain (.expect _ _) fun _ =>
      .bind_plain plain_reference fun _ => .pure_nil (by simp [Stmt.places, stmtSites])
  case h_2 => -- heal
    exact .bind_plain (plain_expr levels) fun _ => .bind_plain (.expect _ _) fun _ =>
      .bind_plain plain_reference fun _ => .pure_nil (by simp [Stmt.places, stmtSites])
  case h_3 => -- move
    exact .bind_plain plain_reference fun _ => .bind_plain (.expect _ _) fun _ =>
      .bind_plain (plain_destination levels) fun _ => .pure_nil (by simp [Stmt.places, stmtSites])
  case h_4 => -- dash
    exact .bind_plain (.expect _ _) fun _ => .bind_plain plain_reference fun _ =>
      .bind_plain (.expect _ _) fun _ => .bind_plain (.expect _ _) fun _ =>
      .bind_plain (plain_expr levels) fun _ => .pure_nil (by simp [Stmt.places, stmtSites])
  case h_5 => -- line
    refine .bind_plain plain_damageKind fun _ => .bind_plain (plain_expr levels) fun _ =>
      .bind_plain (.expect _ _) fun _ => .bind_plain plain_reference fun _ =>
      .bind_plain (.expect _ _) fun _ => .bind_plain (plain_expr levels) fun _ =>
      .bind_plain (plain_eatWord _) fun _ => ?_
    split
    · exact .bind_plain (plain_expr levels) fun _ => .pure_nil (by simp [Stmt.places, stmtSites])
    · exact .pure_nil (by simp [Stmt.places, stmtSites])
  case h_6 => -- set
    exact .bind_plain (plain_scope levels) fun _ => .bind_plain plain_variableName fun _ =>
      .bind_plain (.expect _ _) fun _ => .bind_plain (plain_expr levels) fun _ =>
      .pure_nil (by simp [Stmt.places, stmtSites])
  case h_7 => -- add
    refine .bind_plain (plain_scope levels) fun _ => .bind_plain (plain_eatWord _) fun _ => ?_
    split
    · exact .bind_plain (.take _ _) fun _ => .pure_nil (by simp [Stmt.places, stmtSites])
    · exact .bind_plain plain_variableName fun _ => .bind_plain (.expect _ _) fun _ =>
        .bind_plain (plain_expr levels) fun _ => .pure_nil (by simp [Stmt.places, stmtSites])
  case h_8 => -- remove
    refine .bind_plain (plain_scope levels) fun _ => .bind_plain (plain_eatWord _) fun _ => ?_
    split
    · exact .bind_plain (.take _ _) fun _ => .pure_nil (by simp [Stmt.places, stmtSites])
    · exact .bind_plain plain_variableName fun _ => .pure_nil (by simp [Stmt.places, stmtSites])
  case h_9 => -- consume
    exact .bind_plain (.expect _ _) fun _ => .bind_plain (.expect _ _) fun _ =>
      .bind_plain (plain_expr levels) fun _ => .pure_nil (by simp [Stmt.places, stmtSites])
  case h_10 => -- if
    refine .bind (places_condition levels) fun _ => .bind_plain (.expect _ _) fun _ =>
      .bind (places_body hinner) fun _ => .bind (places_elseBody hinner) fun _ => .pure ?_
    simp [Stmt.places, stmtSites, Cond.places, Block.places, elsePlaces]
  case h_11 => -- repeat
    refine .bind_plain (plain_expr levels) fun _ => .bind_plain (.expect _ _) fun _ =>
      .bind (places_body hinner) fun _ => .pure ?_
    simp [Stmt.places, stmtSites, Block.places]
  case h_12 => -- parallel
    refine .bind (places_bracedBlock hinner) fun _ => .pure ?_
    simp [Stmt.places, stmtSites, Block.places]
  case h_13 => -- for
    refine .bind_plain (.expect _ _) fun _ => .bind_plain (plain_selector levels) fun _ =>
      .bind_plain (.expect _ _) fun _ => .bind (places_body hinner) fun _ => .pure ?_
    simp [Stmt.places, stmtSites, Block.places]
  case h_14 => -- chance
    refine .bind_plain (plain_expr levels) fun _ => .bind_plain (.expect _ _) fun _ =>
      .bind_plain (.expect _ _) fun _ =>
      .bind (places_body hinner) fun _ => .bind (places_elseBody hinner) fun _ => .pure ?_
    simp [Stmt.places, stmtSites, Block.places, elsePlaces]

/-- A statement begins at its first token, and the sites inside it lie at tokens further on. -/
theorem places_statement (levels : Nat) : Places [] (statement levels inner) fun s => places [s] := by
  intro input s rest hrun
  obtain ⟨t, tokens, w, tail, hinput, hpos, htail, hnode⟩ := statement_eq_ok hrun
  obtain ⟨ts, hts, hfinish, hplaces⟩ := places_statementTail hinner htail _ _ _ hnode
  refine ⟨t :: ts, ?_, hfinish, ?_⟩
  · rw [hinput, show tokens = _ from hts, List.cons_append]
  · show (places [s]).Sublist (t.pos :: ts.map Token.pos)
    rw [places_cons, places_nil, List.append_nil, hpos]
    exact hplaces.cons_cons t.pos

end Inner

theorem places_statementWithin (levels : Nat) :
    Places [] (statementWithin levels) fun s => places [s] := by
  induction levels with
  | zero => exact places_statement (.fail _) 0
  | succ levels ih => exact places_statement ih (levels + 1)

/-! ## Scripts -/

theorem plain_integer (what : String) : Plain (integer what) :=
  .bind (.eat _) fun _ => .bind (.take _ _) fun _ => .pure _

theorem plain_metaTail (w : String) : Plain (metaTail w) := by
  unfold metaTail
  dsimp only
  split
  case h_5 | h_6 => exact .bind (plain_named _ _) fun _ => .pure _
  case h_7 => exact .pure _
  all_goals exact .bind (plain_integer _) fun _ => .pure _

theorem plain_metadata? : Plain metadata? := by
  refine .here fun pos => .bind (.take? _) fun r => ?_
  split
  · exact .pure _
  · refine .bind (plain_metaTail _) fun r => ?_
    dsimp only
    split
    · exact .failAt _ _
    · exact .pure _

/-- The positions of the sites of pieces of a script. -/
def piecePlaces (pieces : List Piece) : List Pos := places (pieces.filterMap Piece.statement?)

theorem places_scriptPiece (braced : Bool) :
    Places [] (scriptPiece braced) fun r => piecePlaces r.toList := by
  have hnil : piecePlaces [] = [] := places_nil
  refine .bind_plain (Takes.skipAll _) fun _ => .bind_plain Takes.peek?.plain fun l => ?_
  split
  · exact .pure_nil hnil
  split
  · exact .pure_nil hnil
  refine .bind_plain plain_metadata? fun m => ?_
  split
  · exact .pure_nil hnil
  · exact .bind (places_statementWithin maxNesting) fun s => .pure (List.Sublist.refl _)

/-- The sites of a script lie at tokens of their own. -/
theorem places_script (braced : Bool) : Places [] (script braced) fun s => s.sites.map Site.pos := by
  have hpieces : Places [] (many (scriptPiece braced)) piecePlaces := by
    refine Takes.many (List.nil_sublist _) fun ts l hl => ?_
    refine (places_scriptPiece braced).mono fun us r hr => ?_
    rw [piecePlaces, List.filterMap_append, places_append, List.map_append]
    exact hl.append hr
  exact .bind hpieces fun pieces => .pure (List.Sublist.refl _)

end Skirmish.Script
