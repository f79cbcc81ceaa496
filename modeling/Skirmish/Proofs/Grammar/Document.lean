import Skirmish.Proofs.Grammar.Statement

/-!
# Reading scripts back

Every script that can be written is read back from what any style makes of it, up to positions
(`Style.parses_script`). So what is written tells the script (`Style.unplaced_eq_of_script_eq`).
-/

namespace Skirmish.Script

open Script.Parser

variable {style : Style} {s : Script}

/-! ## Metadata -/

theorem reads_integer {what : String} (n : Int64) : Reads (integer what) [.int n] Any (· = n) :=
  .bind_eat_ne nofun (.bind_cons (.take rfl) (.pure rfl))

/-- The word in front of metadata, if it is one. -/
theorem filter_metaWord {w : String} (hw : metaWords.contains w) :
    (word? (.word w)).filter metaWords.contains = some w := by
  rw [word?, Option.filter_some, if_pos hw]

theorem reads_metadata_of_tail {w : String} {ls : List Lexeme} {m : Meta} {number : Option Int64}
    (hw : metaWords.contains w) (htail : Reads (metaTail w) ls Any (· = (m, number)))
    (hnumber : number.any (· < 0) = false) :
    Reads metadata? (.word w :: ls) Any fun r => ∃ m', r = some m' ∧ m'.node = m := by
  refine .here fun pos => .bind_cons (.take? (filter_metaWord hw)) ?_
  refine .bind_pure htail (fun _ _ => trivial) ?_
  dsimp only
  rw [hnumber, if_neg Bool.false_ne_true]
  exact .pure ⟨_, rfl, rfl⟩

/-- Metadata that was written is read back. -/
theorem reads_metadata {m : Meta} (h : m.isWritable) :
    Reads metadata? (Style.declaration m) Any fun r => ∃ m', r = some m' ∧ m'.node = m := by
  have hnumber : ∀ {what : String} (f : Int64 → Meta) (n : Int64),
      Reads (do let n ← integer what; return (f n, some n)) [.int n] Any (· = (f n, some n)) :=
    fun f n => .bind_pure (reads_integer n) (fun _ _ => trivial) (.pure rfl)
  have hnonneg : ∀ {n : Int64}, decide (0 ≤ n) = true → (some n).any (· < 0) = false :=
    fun h => decide_eq_false (Int64.not_lt.2 (of_decide_eq_true h))
  cases m with
  | range n => exact reads_metadata_of_tail (by decide) (hnumber .range n) (hnonneg h)
  | minRange n => exact reads_metadata_of_tail (by decide) (hnumber .minRange n) (hnonneg h)
  | cooldown n => exact reads_metadata_of_tail (by decide) (hnumber .cooldown n) (hnonneg h)
  | sealedUntil n => exact reads_metadata_of_tail (by decide) (hnumber .sealedUntil n) (hnonneg h)
  | endsTurn => exact reads_metadata_of_tail (by decide) (.pure rfl) rfl
  | targeting t =>
    have hname : Targeting.ofName? t.name = some t := by cases t <;> decide +kernel
    have htail : Reads (metaTail "targeting") [.word t.name] Any (· = (.targeting t, none)) :=
      .bind_pure (reads_named hname) (fun _ _ => trivial) (.pure rfl)
    exact reads_metadata_of_tail (by decide) htail rfl
  | distance m =>
    have hname : Metric.ofName? m.name = some m := by cases m <;> decide +kernel
    have htail : Reads (metaTail "distance") [.word m.name] Any (· = (.distance m, none)) :=
      .bind_pure (reads_named hname) (fun _ _ => trivial) (.pure rfl)
    exact reads_metadata_of_tail (by decide) htail rfl

theorem reads_metadata_none :
    Reads metadata? [] (fun ms => ∃ w rest, ms = .word w :: rest ∧ metaWords.contains w = false)
      (· = none) := by
  refine .here fun pos => .bind_nil .take?_none ?_ (.pure rfl)
  rintro _ ⟨w, rest, rfl, hw⟩
  rw [List.nil_append, List.head?_cons, Option.bind_some, word?, Option.filter_some, hw,
    if_neg Bool.false_ne_true]

theorem declaration_eq (m : Meta) :
    ∃ w more, Style.declaration m = .word w :: more ∧ w ≠ "else" := by
  cases m <;> exact ⟨_, _, rfl, by decide⟩

/-! ## Pieces -/

/-- The pieces of a script, in the order in which they are written. -/
def pieces (s : Script) : List Piece := s.metas.map .declaration ++ s.stmts.map .statement

def Style.piece (style : Style) : Piece → List Lexeme
  | .declaration m => declaration m.node
  | .statement s => style.stmt s.node

def Piece.unplaced : Piece → Piece
  | declaration m => declaration m.unplaced
  | statement s => statement ⟨unplacedStmt s.node, .start⟩

theorem script_eq_flatMap (s : Script) :
    style.script s = s.pieces.flatMap fun p => style.piece p ++ pending style.semicolons := by
  rw [Style.script, stmts_eq_flatMap, pieces, List.flatMap_append, List.flatMap_map,
    List.flatMap_map]
  rfl

/-- The script that some pieces make up. -/
def ofPieces (ps : List Piece) : Script where
  metas := ps.filterMap Piece.declaration?
  stmts := ps.filterMap Piece.statement?

theorem ofPieces_pieces (s : Script) : ofPieces s.pieces = s := by
  have hdeclarations : (s.stmts.map Piece.statement).filterMap Piece.declaration? = [] :=
    List.filterMap_eq_nil_iff.2 (List.forall_mem_map.2 fun _ _ => rfl)
  have hstatements : (s.metas.map Piece.declaration).filterMap Piece.statement? = [] :=
    List.filterMap_eq_nil_iff.2 (List.forall_mem_map.2 fun _ _ => rfl)
  rw [ofPieces, pieces, List.filterMap_append, List.filterMap_append, hdeclarations, hstatements,
    List.append_nil, List.nil_append, List.filterMap_map, List.filterMap_map]
  exact congr (congrArg Script.mk List.filterMap_some) List.filterMap_some

/-- The positions of pieces are those of the script. -/
theorem unplaced_ofPieces (ps : List Piece) :
    (ofPieces ps).unplaced = ofPieces (ps.map Piece.unplaced) := by
  rw [unplaced, ofPieces, ofPieces, unplacedStmts_eq_map, List.map_map, List.map_filterMap,
    List.map_filterMap, List.filterMap_map, List.filterMap_map]
  congr 2 <;> funext p <;> cases p <;> rfl

theorem endsStmt_piece (p : Piece) (rest : List Lexeme) : EndsStmt (style.piece p ++ rest) := by
  cases p with
  | statement s => exact endsStmt_stmt s.node rest
  | declaration m =>
    obtain ⟨w, more, hw, helse⟩ := declaration_eq m.node
    rw [Style.piece, hw]
    exact ⟨endsExpr_word _ _, fun h => helse (Lexeme.word.inj (Option.some.inj h))⟩

theorem piece_ne_nil (p : Piece) : style.piece p ≠ [] := by
  cases p with
  | statement s => exact stmt_ne_nil s.node
  | declaration m =>
    obtain ⟨w, more, hw, -⟩ := declaration_eq m.node
    rw [Style.piece, hw]
    exact List.cons_ne_nil _ _

theorem reads_scriptPiece_declaration {m : Located Meta} (h : m.node.isWritable) (k : Nat) :
    Reads (scriptPiece false) (pending k ++ style.piece (.declaration m)) EndsStmt
      fun r => ∃ p, r = some p ∧ p.unplaced = (Piece.declaration m).unplaced := by
  obtain ⟨w, more, hw, -⟩ := declaration_eq m.node
  have hmeta := reads_metadata h
  rw [Style.piece]
  rw [hw] at hmeta ⊢
  refine .bind_eq (reads_skipSemicolons k) (fun _ _ => nofun) (.peek? (fun _ _ => rfl) ?_)
  dsimp only
  rw [if_neg fun hbrace => Bool.false_ne_true hbrace.1]
  refine .bind_last hmeta (fun _ _ => trivial) fun r hr => ?_
  obtain ⟨m', rfl, hm'⟩ := hr
  exact .pure ⟨_, rfl, congrArg (fun node => Piece.declaration ⟨node, .start⟩) hm'⟩

theorem reads_scriptPiece_statement {s : Located Stmt} (hs : s.node.ReadsBack style)
    (h : style.stmtNesting s.node ≤ maxNesting) (k : Nat) :
    Reads (scriptPiece false) (pending k ++ style.piece (.statement s)) EndsStmt
      fun r => ∃ p, r = some p ∧ p.unplaced = (Piece.statement s).unplaced := by
  obtain ⟨w, more, hw, -, hmeta⟩ := stmt_eq style s.node
  have hread := hs maxNesting h
  rw [Style.piece]
  rw [hw] at hread ⊢
  refine .bind_eq (reads_skipSemicolons k) (fun _ _ => nofun) (.peek? (fun _ _ => rfl) ?_)
  dsimp only
  rw [if_neg fun hbrace => Bool.false_ne_true hbrace.1]
  refine .bind_nil reads_metadata_none (fun _ _ => ⟨w, _, rfl, hmeta⟩) ?_
  refine .bind_last hread (fun _ h => h) fun s' hs' => .pure ⟨_, rfl, ?_⟩
  rw [Piece.unplaced, hs', Piece.unplaced]

/-! ## Scripts -/

/-- A script that was written is read back, if nothing follows. -/
theorem reads_script (hwritable : s.isWritable) (h : style.nesting s ≤ maxNesting) :
    Reads (script false) (style.script s) (· = []) (·.unplaced = s.unplaced) := by
  obtain ⟨hmetas, hstmts⟩ := Bool.and_eq_true_iff.1 hwritable
  rw [script_eq_flatMap]
  refine .bind_last (P := (·.map Piece.unplaced = s.pieces.map Piece.unplaced)) (reads_many
    style.piece Piece.unplaced style.semicolons piece_ne_nil (fun p hp k => ?_) (fun k => ?_) ?_
    (endsStmt_symbol rfl rfl) endsStmt_piece) (fun _ h => h) fun ps hps => .pure ?_
  · rcases List.mem_append.1 hp with hp | hp
    · obtain ⟨m, hm, rfl⟩ := List.mem_map.1 hp
      exact reads_scriptPiece_declaration (List.all_eq_true.1 hmetas m hm) k
    · obtain ⟨x, hx, rfl⟩ := List.mem_map.1 hp
      have hlt := stmtNesting_lt_of_mem style hx
      have hle : style.stmtNesting x.node ≤ maxNesting := Nat.le_trans (Nat.le_sub_one_of_lt hlt) h
      exact reads_scriptPiece_statement (stmts_readBack style s.stmts hstmts x hx) hle k
  · refine .bind_pure (reads_skipSemicolons k) (fun rest hrest => by rw [hrest]; nofun) ?_
    have hend : ∀ rest : List Lexeme, rest = [] → ([] ++ rest).head? = none := by
      rintro _ rfl
      rfl
    exact .peek? hend (.pure rfl)
  · rintro _ rfl
    exact ⟨nofun, nofun⟩
  · show (ofPieces ps).unplaced = s.unplaced
    rw [unplaced_ofPieces, hps, ← unplaced_ofPieces, ofPieces_pieces]

/-- The tokens of a script that was written are read back as the script, up to positions, and so is
every text that has these tokens. -/
theorem Style.parses_script (style : Style) (s : Script) (hwritable : s.isWritable)
    (h : style.nesting s ≤ maxNesting) (input : TokenList)
    (hinput : input.tokens.map Token.lexeme = style.script s) :
    ∃ s', Script.script false input = .ok (s', ⟨[], input.finish⟩) ∧ s'.unplaced = s.unplaced ∧
      ∀ text, scan text = .ok input → parseScript text = .ok s' := by
  obtain ⟨s', hrun, hs'⟩ := reads_script hwritable h input.tokens [] input.finish hinput rfl
  rw [List.append_nil] at hrun
  refine ⟨s', hrun, hs', fun text htext => ?_⟩
  show (scan text).bind _ = _
  rw [htext]
  show (Script.script false input).bind _ = _
  rw [hrun]
  rfl

/-- A style that writes no parentheses but those that must be there. -/
def Style.plain : Style where
  saysCaster := false
  enclosed _ := false
  enclosedWhole _ := false
  enclosedCond _ := false
  enclosedTest _ := false
  order := ModifierKind.all
  order_perm := .refl _
  semicolons := 1

/-- A loop with modifiers, a condition of two parts and a sum in parentheses. -/
def remedy : Script where
  metas := [⟨.range 3, .start⟩]
  stmts :=
    let weak : Cond :=
      .and (.cmp .lt (.unitVar .it "Hp") (.lit (.int 5))) (.not (.hasTag .it "boss"))
    let hit : Stmt := .heal (.bin .mul (.bin .add .turn (.lit (.int 1))) (.lit (.int 2))) .it
    let near : Selector :=
      { pool := .allies, order := some .nearest, range := some ⟨.lit (.int 3), .start⟩,
        anchor := some .caster }
    [⟨.forEach ⟨near, .start⟩ (.mk true .start
      [⟨.branch weak (.mk true .start [⟨hit, .start⟩]) none, .start⟩]), .start⟩]

def remedyText : String :=
  "range 3; for each allies nearest in range 3 of self do\x7b
if it.\"Hp\"<5 and not it has tag \"boss\" then\x7bheal(turn+1)*2 to it;\x7d;\x7d;"

theorem Style.parses_script_remedy :
    remedy.isWritable ∧ plain.nesting remedy ≤ maxNesting ∧
      ∃ s', parseScript remedyText = .ok s' ∧ s'.unplaced = remedy.unplaced := by
  have hlexemes : (scan remedyText).toOption.map (fun input => input.tokens.map Token.lexeme) =
      some (plain.script remedy) := by decide +kernel
  have hwritable : remedy.isWritable := by decide
  have hnesting : plain.nesting remedy ≤ maxNesting := by decide
  refine ⟨hwritable, hnesting, ?_⟩
  cases hscan : scan remedyText with
  | error e =>
    rw [hscan] at hlexemes
    cases hlexemes
  | ok input =>
    rw [hscan] at hlexemes
    obtain ⟨s', -, hs', htext⟩ :=
      plain.parses_script remedy hwritable hnesting input (Option.some.inj hlexemes)
    exact ⟨s', htext _ hscan, hs'⟩

/-- What is written tells the script, whatever the styles. -/
theorem Style.unplaced_eq_of_script_eq {style style' : Style} {s t : Script} (hs : s.isWritable)
    (ht : t.isWritable) (hs' : style.nesting s ≤ maxNesting) (ht' : style'.nesting t ≤ maxNesting)
    (h : style.script s = style'.script t) : s.unplaced = t.unplaced := by
  let ts : List Token := (style.script s).map (⟨·, .start⟩)
  have hts : ts.map Token.lexeme = style.script s := by
    rw [List.map_map]
    exact List.map_id _
  obtain ⟨u, hu, hus⟩ := reads_script hs hs' ts [] .start hts rfl
  obtain ⟨v, hv, hvt⟩ := reads_script ht ht' ts [] .start (hts.trans h) rfl
  obtain ⟨rfl, -⟩ := Prod.mk.inj (Except.ok.inj (hu.symm.trans hv))
  exact hus.symm.trans hvt

end Skirmish.Script
