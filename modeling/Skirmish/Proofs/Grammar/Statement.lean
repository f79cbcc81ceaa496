import Skirmish.Proofs.Grammar.Selector

/-!
# Reading statements back

Each statement that was written is read back, in front of anything that neither goes on with its
last expression nor is an `else` (`Stmt.readsBack`). The induction is on the statement; the
statements of a block are read one level deeper, with semicolons between them (`reads_many`).
-/

namespace Skirmish.Script

open Script.Parser

variable {style : Style} {levels : Nat}

/-! ## Parts of statements -/

theorem reads_damageKind (kind : DamageKind) :
    Reads damageKind [.word kind.name] Any (· = kind) := by
  cases kind <;> exact .bind_cons (.take? rfl) (.pure rfl)

theorem reads_variableName (name : String) :
    Reads variableName (Style.variableName name) Any (· = name) :=
  .bind_cons .expect (.take rfl)

theorem reads_pointTail {x y : Expr} (hx : x.isWritable) (hy : y.isWritable)
    (h : max (style.wholeNesting x) (style.wholeNesting y) ≤ levels) :
    Reads (pointTail levels) (style.point x y).tail Any (· = (x, y)) := by
  obtain ⟨hx', hy'⟩ := Nat.max_le.1 h
  refine .bind_eq (reads_whole hx hx') (fun _ _ => endsExpr_cons rfl rfl _) (.bind_cons .expect ?_)
  refine .bind_eq (reads_whole hy hy') (fun _ _ => endsExpr_cons rfl rfl _) ?_
  exact .bind_cons .expect (.pure rfl)

theorem reads_scope {s : Scope} (hwritable : s.isWritable) (h : style.scopeNesting s ≤ levels) :
    Reads (scope levels) (style.scope s) Any (· = s) := by
  cases s with
  | global => exact .bind_cons .eat (.pure rfl)
  | unit ref =>
    obtain ⟨w, more, hw, hmem⟩ := ref_eq style ref
    have hother : ∀ w ∈ refWords,
        Lexeme.word w ≠ .word "global" ∧ Lexeme.word w ≠ .word "tile" := by decide
    obtain ⟨hglobal, htile⟩ := hother w hmem
    have href := reads_reference style ref
    rw [Style.scope]
    rw [hw] at href ⊢
    refine .bind_eat_ne hglobal (.bind_eat_ne htile ?_)
    exact .bind_pure href (fun _ _ => trivial) (.pure rfl)
  | tileAt ref =>
    refine .bind_eat_ne (by decide) (.bind_cons .eat (.bind_cons .eat ?_))
    exact .bind_pure (reads_reference style ref) (fun _ _ => trivial) (.pure rfl)
  | tile x y =>
    obtain ⟨hx, hy⟩ := Bool.and_eq_true_iff.1 hwritable
    refine .bind_eat_ne (by decide) (.bind_cons .eat (.bind_eat_ne nofun (.bind_cons .expect ?_)))
    exact .bind_pure (reads_pointTail hx hy h) (fun _ _ => trivial) (.pure rfl)

theorem reads_destination {goal : Destination} (hwritable : goal.isWritable)
    (h : style.destinationNesting goal ≤ levels) :
    Reads (destination levels) (style.destination goal) Any (· = goal) := by
  cases goal with
  | coord x y =>
    obtain ⟨hx, hy⟩ := Bool.and_eq_true_iff.1 hwritable
    refine .bind_cons .eat ?_
    exact .bind_pure (reads_pointTail hx hy h) (fun _ _ => trivial) (.pure rfl)
  | «at» ref =>
    obtain ⟨w, more, hw, -⟩ := ref_eq style ref
    have href := reads_reference style ref
    rw [Style.destination]
    rw [hw] at href ⊢
    exact .bind_eat_ne nofun (.bind_pure href (fun _ _ => trivial) (.pure rfl))

/-! ## Statements without bodies -/

/-- Nothing follows that goes on with an expression or is an `else`. -/
def EndsStmt (ms : List Lexeme) : Prop := EndsExpr ms ∧ ms.head? ≠ some (.word "else")

section Simple

variable {inner : Parser (Located Stmt)} {amount length radius : Expr}

theorem reads_statement {w : String} {tail : Parser Stmt} {ls : List Lexeme}
    {next : List Lexeme → Prop} {Q : Located Stmt → Prop}
    (htail : statementTail? levels inner w = some tail) (hmeta : metaWords.contains w = false)
    (h : Reads tail ls next fun s => ∀ pos, Q ⟨s, pos⟩) :
    Reads (statement levels inner) (.word w :: ls) next Q := by
  refine .here fun pos => .peek? (fun _ _ => rfl) ?_
  dsimp only [Option.bind_some, word?]
  rw [hmeta, if_neg Bool.false_ne_true, htail]
  exact .bind_cons .skip (.bind_last h (fun _ h => h) fun _ hs => .pure (hs pos))

theorem reads_deal (kind : DamageKind) (who : Ref) (hwritable : amount.isWritable)
    (h : style.wholeNesting amount ≤ levels) :
    Reads (statement levels inner) (style.stmt (.deal kind amount who)) EndsStmt
      (·.node = .deal kind amount who) := by
  rw [Style.stmt]
  refine reads_statement rfl (by decide) (.bind_cons (reads_damageKind kind) ?_)
  refine .bind_eq (reads_whole hwritable h) (fun _ _ => endsExpr_word _ _) ?_
  refine .bind_cons .expect (.bind_cons .expect ?_)
  exact .bind_pure (reads_reference style who) (fun _ _ => trivial) (.pure fun _ => rfl)

theorem reads_heal (who : Ref) (hwritable : amount.isWritable)
    (h : style.wholeNesting amount ≤ levels) :
    Reads (statement levels inner) (style.stmt (.heal amount who)) EndsStmt
      (·.node = .heal amount who) := by
  rw [Style.stmt]
  refine reads_statement rfl (by decide) ?_
  refine .bind_eq (reads_whole hwritable h) (fun _ _ => endsExpr_word _ _) (.bind_cons .expect ?_)
  exact .bind_pure (reads_reference style who) (fun _ _ => trivial) (.pure fun _ => rfl)

theorem reads_move (unit : Ref) {goal : Destination} (hwritable : goal.isWritable)
    (h : style.destinationNesting goal ≤ levels) :
    Reads (statement levels inner) (style.stmt (.move unit goal)) EndsStmt
      (·.node = .move unit goal) := by
  rw [Style.stmt]
  refine reads_statement rfl (by decide) ?_
  refine .bind_eq (reads_reference style unit) (fun _ _ => trivial) (.bind_cons .expect ?_)
  exact .bind_pure (reads_destination hwritable h) (fun _ _ => trivial) (.pure fun _ => rfl)

theorem reads_dash (who : Ref) (hwritable : amount.isWritable)
    (h : style.wholeNesting amount ≤ levels) :
    Reads (statement levels inner) (style.stmt (.dash who amount)) EndsStmt
      (·.node = .dash who amount) := by
  rw [Style.stmt]
  refine reads_statement rfl (by decide) (.bind_cons .expect ?_)
  refine .bind_eq (reads_reference style who) (fun _ _ => trivial) ?_
  refine .bind_cons .expect (.bind_cons .expect ?_)
  exact .bind_pure (reads_whole hwritable h) (fun _ hrest => hrest.1) (.pure fun _ => rfl)

theorem reads_line (kind : DamageKind) (who : Ref)
    (hwritable : stmtIsWritable (.line kind amount who length radius))
    (h : style.stmtNesting (.line kind amount who length radius) ≤ levels) :
    Reads (statement levels inner) (style.stmt (.line kind amount who length radius)) EndsStmt
      (·.node = .line kind amount who length radius) := by
  rw [stmtIsWritable, Bool.and_eq_true, Bool.and_eq_true] at hwritable
  rw [Style.stmtNesting, Nat.max_le, Nat.max_le] at h
  rw [Style.stmt]
  refine reads_statement rfl (by decide) (.bind_cons (reads_damageKind kind) ?_)
  refine .bind_eq (reads_whole hwritable.1.1 h.1) (fun _ _ => endsExpr_word _ _) ?_
  refine .bind_cons .expect (.bind_eq (reads_reference style who) (fun _ _ => trivial) ?_)
  refine .bind_cons .expect ?_
  refine .bind_eq (reads_whole hwritable.1.2 h.2.1) (fun _ _ => endsExpr_word _ _) ?_
  refine .bind_cons .eat ?_
  exact .bind_pure (reads_whole hwritable.2 h.2.2) (fun _ hrest => hrest.1) (.pure fun _ => rfl)

theorem reads_setVar {s : Scope} (name : String) (hwritable : s.isWritable && amount.isWritable)
    (h : max (style.scopeNesting s) (style.wholeNesting amount) ≤ levels) :
    Reads (statement levels inner) (style.stmt (.setVar s name amount)) EndsStmt
      (·.node = .setVar s name amount) := by
  obtain ⟨hs, hamount⟩ := Bool.and_eq_true_iff.1 hwritable
  obtain ⟨hs', hamount'⟩ := Nat.max_le.1 h
  rw [Style.stmt]
  refine reads_statement rfl (by decide) (.bind_eq (reads_scope hs hs') (fun _ _ => trivial) ?_)
  refine .bind_eq (reads_variableName name) (fun _ _ => trivial) (.bind_cons .expect ?_)
  exact .bind_pure (reads_whole hamount hamount') (fun _ hrest => hrest.1) (.pure fun _ => rfl)

theorem reads_addVar {s : Scope} (name : String) (hwritable : s.isWritable && amount.isWritable)
    (h : max (style.scopeNesting s) (style.wholeNesting amount) ≤ levels) :
    Reads (statement levels inner) (style.stmt (.addVar s name amount)) EndsStmt
      (·.node = .addVar s name amount) := by
  obtain ⟨hs, hamount⟩ := Bool.and_eq_true_iff.1 hwritable
  obtain ⟨hs', hamount'⟩ := Nat.max_le.1 h
  rw [Style.stmt]
  refine reads_statement rfl (by decide) (.bind_eq (reads_scope hs hs') (fun _ _ => trivial) ?_)
  refine .bind_eat_ne (by decide) ?_
  refine .bind_eq (reads_variableName name) (fun _ _ => trivial) (.bind_cons .expect ?_)
  exact .bind_pure (reads_whole hamount hamount') (fun _ hrest => hrest.1) (.pure fun _ => rfl)

theorem reads_removeVar {s : Scope} (name : String) (hwritable : s.isWritable)
    (h : style.scopeNesting s ≤ levels) :
    Reads (statement levels inner) (style.stmt (.removeVar s name)) EndsStmt
      (·.node = .removeVar s name) := by
  rw [Style.stmt]
  refine reads_statement rfl (by decide) ?_
  refine .bind_eq (reads_scope hwritable h) (fun _ _ => trivial) ?_
  refine .bind_eat_ne (by decide) ?_
  exact .bind_pure (reads_variableName name) (fun _ _ => trivial) (.pure fun _ => rfl)

theorem reads_addTag {s : Scope} (tag : String) (hwritable : s.isWritable)
    (h : style.scopeNesting s ≤ levels) :
    Reads (statement levels inner) (style.stmt (.addTag s tag)) EndsStmt
      (·.node = .addTag s tag) := by
  rw [Style.stmt]
  refine reads_statement rfl (by decide) ?_
  refine .bind_eq (reads_scope hwritable h) (fun _ _ => trivial) ?_
  exact .bind_cons .eat (.bind_cons (.take rfl) (.pure fun _ => rfl))

theorem reads_removeTag {s : Scope} (tag : String) (hwritable : s.isWritable)
    (h : style.scopeNesting s ≤ levels) :
    Reads (statement levels inner) (style.stmt (.removeTag s tag)) EndsStmt
      (·.node = .removeTag s tag) := by
  rw [Style.stmt]
  refine reads_statement rfl (by decide) ?_
  refine .bind_eq (reads_scope hwritable h) (fun _ _ => trivial) ?_
  exact .bind_cons .eat (.bind_cons (.take rfl) (.pure fun _ => rfl))

theorem reads_consumeMp (hwritable : amount.isWritable) (h : style.wholeNesting amount ≤ levels) :
    Reads (statement levels inner) (style.stmt (.consumeMp amount)) EndsStmt
      (·.node = .consumeMp amount) := by
  rw [Style.stmt]
  refine reads_statement rfl (by decide) (.bind_cons .expect (.bind_cons .expect ?_))
  exact .bind_pure (reads_whole hwritable h) (fun _ hrest => hrest.1) (.pure fun _ => rfl)

end Simple

/-! ## Lists -/

/-- Semicolons that are still to be passed over. -/
def pending (n : Nat) : List Lexeme := List.replicate n (.symbol .semi)

theorem reads_skipSemicolons (n : Nat) :
    Reads skipSemicolons (pending n) (·.head? ≠ some (.symbol .semi)) (· = ()) := by
  intro ts rest finish hts hrest
  refine ⟨(), ?_, rfl⟩
  have hsemi : ∀ t ∈ ts, decide (t.lexeme = .symbol .semi) = true := by
    intro t ht
    have hmem : t.lexeme ∈ pending n := hts ▸ List.mem_map_of_mem ht
    exact decide_eq_true (List.eq_of_mem_replicate hmem)
  have hstop : rest.dropWhile (fun t => decide (t.lexeme = .symbol .semi)) = rest := by
    cases rest with
    | nil => rfl
    | cons t rest =>
      refine List.dropWhile_cons_of_neg fun ht => hrest ?_
      exact congrArg some (of_decide_eq_true ht)
  show Except.ok ((), (⟨(ts ++ rest).dropWhile _, finish⟩ : TokenList)) = _
  rw [List.dropWhile_append_of_pos hsemi, hstop]

/-- One piece after the other, each with `n` semicolons behind it, is read by a parser of pieces
that passes over the semicolons in front of a piece. -/
theorem reads_many {α γ : Type} (write : α → List Lexeme) (erase : α → γ) (n : Nat) {xs : List α}
    {item : Parser (Option α)} {next follow : List Lexeme → Prop} (hne : ∀ x, write x ≠ [])
    (hitem : ∀ x ∈ xs, ∀ k, Reads item (pending k ++ write x) follow
      fun r => ∃ y, r = some y ∧ erase y = erase x)
    (hend : ∀ k, Reads item (pending k) next (· = none))
    (hnext : ∀ rest, next rest → follow rest) (hsemi : ∀ rest, follow (.symbol .semi :: rest))
    (hwrite : ∀ x rest, follow (write x ++ rest)) :
    Reads (many item) (xs.flatMap fun x => write x ++ pending n) next
      (·.map erase = xs.map erase) := by
  -- the semicolons behind a piece are passed over in front of the next one
  let I (ls : List Lexeme) (ys : List α) : Prop :=
    ∃ (k : Nat) (left : List α), (∀ x ∈ left, x ∈ xs) ∧
      ls = pending k ++ left.flatMap (fun x => write x ++ pending n) ∧
      ys.reverse.map erase ++ left.map erase = xs.map erase
  refine .map (Reads.steps (I := I) ?_ ⟨0, xs, fun _ hx => hx, rfl, rfl⟩)
  rintro _ ys ⟨k, left, hleft, rfl, herase⟩
  cases left with
  | nil =>
    rw [List.flatMap_nil, List.append_nil]
    refine .inl ⟨.map ((hend k).mono (fun _ h => h) fun _ hr => hr ▸ rfl), ?_⟩
    rwa [List.map_nil, List.append_nil] at herase
  | cons x left =>
    obtain ⟨hx, hleft⟩ := List.forall_mem_cons.1 hleft
    refine .inr ⟨pending k ++ write x, pending n ++ left.flatMap (fun x => write x ++ pending n),
      follow, ?_, ?_, fun rest hrest => ?_, .map ?_⟩
    · simp only [List.flatMap_cons, List.append_assoc]
    · exact List.append_ne_nil_of_right_ne_nil _ (hne x)
    · cases n with
      | succ n => exact hsemi _
      | zero =>
        cases left with
        | nil => exact hnext rest hrest
        | cons x' left =>
          rw [List.flatMap_cons, pending, List.replicate_zero, List.nil_append, List.append_assoc,
            List.append_assoc]
          exact hwrite x' _
    · refine (hitem x hx k).mono (fun _ h => h) ?_
      rintro _ ⟨y, rfl, hy⟩
      refine ⟨y :: ys, rfl, n, left, hleft, rfl, ?_⟩
      rw [List.reverse_cons, List.map_append, List.append_assoc, List.map_singleton, hy]
      exact herase

/-! ## Bodies -/

/-- What reads the statements of a body. -/
def innerStatement : Nat → Parser (Located Stmt)
  | 0 => tooDeep
  | levels + 1 => statementWithin levels

theorem statementWithin_eq (levels : Nat) :
    statementWithin levels = statement levels (innerStatement levels) := by
  cases levels <;> rfl

/-- A statement begins with a word that neither goes on with another statement nor begins
metadata. -/
theorem stmt_eq (style : Style) (s : Stmt) :
    ∃ w more, style.stmt s = .word w :: more ∧ w ≠ "else" ∧ metaWords.contains w = false := by
  cases s <;> rw [Style.stmt] <;> exact ⟨_, _, rfl, by decide, by decide⟩

theorem endsStmt_stmt (s : Stmt) (rest : List Lexeme) : EndsStmt (style.stmt s ++ rest) := by
  obtain ⟨w, more, hw, helse, -⟩ := stmt_eq style s
  rw [hw]
  exact ⟨endsExpr_word _ _, fun h => helse (Lexeme.word.inj (Option.some.inj h))⟩

theorem stmt_ne_nil (s : Stmt) : style.stmt s ≠ [] := by
  obtain ⟨w, more, hw, -⟩ := stmt_eq style s
  rw [hw]
  exact List.cons_ne_nil _ _

theorem endsStmt_symbol {s : Symbol} (hadd : additive? (.symbol s) = none)
    (hmul : multiplicative? (.symbol s) = none) (ms : List Lexeme) : EndsStmt (.symbol s :: ms) :=
  ⟨endsExpr_cons hadd hmul ms, nofun⟩

theorem stmts_eq_flatMap (l : List (Located Stmt)) :
    style.stmts l = l.flatMap fun s => style.stmt s.node ++ pending style.semicolons := by
  induction l with
  | nil => rfl
  | cons s l ih => rw [Style.stmts, ih, List.flatMap_cons, List.append_assoc]; rfl

theorem unplacedStmts_eq_map (l : List (Located Stmt)) :
    unplacedStmts l = (l.map fun s => unplacedStmt s.node).map fun s => ⟨s, .start⟩ := by
  induction l with
  | nil => rfl
  | cons s l ih => rw [unplacedStmts, ih, List.map_cons, List.map_cons]

theorem stmtNesting_lt_of_mem (style : Style) {l : List (Located Stmt)} {s : Located Stmt}
    (hs : s ∈ l) : style.stmtNesting s.node < style.stmtsNesting l := by
  induction l with
  | nil => cases hs
  | cons t l ih =>
    rw [Style.stmtsNesting]
    cases hs with
    | head => exact Nat.le_max_left _ _
    | tail _ hs => exact Nat.lt_of_lt_of_le (ih hs) (Nat.le_max_right _ _)

/-- A statement is read back wherever enough levels are left. -/
def Stmt.ReadsBack (style : Style) (s : Stmt) : Prop :=
  ∀ levels, style.stmtNesting s ≤ levels →
    Reads (statementWithin levels) (style.stmt s) EndsStmt (unplacedStmt ·.node = unplacedStmt s)

def Block.ReadsBack (style : Style) (b : Block) : Prop :=
  ∀ levels, style.blockNesting b ≤ levels →
    Reads (bracedBlock (innerStatement levels)) (style.block b) Any
      (unplacedBlock · = unplacedBlock b)

/-- The body behind `else` is read back if there is one; otherwise there must be no `else`. -/
def ElseReadsBack (style : Style) (no : Option Block) : Prop :=
  ∀ levels, style.elseNesting no ≤ levels →
    Reads (elseBody (innerStatement levels)) (style.elseBlock no)
      (·.head? ≠ some (.word "else")) (unplacedElse · = unplacedElse no)

theorem Stmt.ReadsBack.inner {s : Stmt} (hs : s.ReadsBack style)
    (h : style.stmtNesting s < levels) :
    Reads (innerStatement levels) (style.stmt s) EndsStmt
      (unplacedStmt ·.node = unplacedStmt s) := by
  cases levels with
  | zero => exact absurd h (Nat.not_lt_zero _)
  | succ levels => exact hs levels (Nat.le_of_lt_succ h)

/-- The statements of a block are read back, up to its closing brace. -/
theorem reads_blockItems {l : List (Located Stmt)} (hl : ∀ s ∈ l, s.node.ReadsBack style)
    (h : style.stmtsNesting l ≤ levels) :
    Reads (many do
        skipSemicolons
        match ← peek? with
        | some (.symbol .rbrace) => return none
        | some _ => return some (← innerStatement levels)
        | none => unexpected "`\x7d`")
      (style.stmts l) (·.head? = some (.symbol .rbrace)) (unplacedStmts · = unplacedStmts l) := by
  rw [stmts_eq_flatMap]
  refine (reads_many (fun s : Located Stmt => style.stmt s.node) (fun s => unplacedStmt s.node)
    style.semicolons (fun s => stmt_ne_nil s.node) ?_ ?_ ?_ (endsStmt_symbol rfl rfl)
    fun s => endsStmt_stmt s.node).mono (fun _ h => h) fun l' hl' => ?_
  · intro s hs k
    obtain ⟨w, more, hw, -⟩ := stmt_eq style s.node
    have hinner := (hl s hs).inner (Nat.lt_of_lt_of_le (stmtNesting_lt_of_mem style hs) h)
    rw [hw] at hinner ⊢
    refine .bind_eq (reads_skipSemicolons k) (fun _ _ => nofun) (.peek? (fun _ _ => rfl) ?_)
    exact .bind_last hinner (fun _ h => h) fun s' hs' => .pure ⟨s', rfl, hs'⟩
  · intro k
    refine .bind_pure (reads_skipSemicolons k) (fun rest hrest => by rw [hrest]; nofun) ?_
    exact .peek? (fun rest hrest => hrest) (.pure rfl)
  · rintro (_ | ⟨l, rest⟩) hrest
    · cases hrest
    · obtain rfl := Option.some.inj hrest
      exact endsStmt_symbol rfl rfl rest
  · rw [unplacedStmts_eq_map, hl', ← unplacedStmts_eq_map]

theorem Block.ReadsBack.of_stmts {l : List (Located Stmt)} (hl : ∀ s ∈ l, s.node.ReadsBack style)
    (pos : Pos) : (Block.mk true pos l).ReadsBack style := by
  intro levels h
  rw [Style.block]
  refine .here fun pos' => .bind_cons .expect ?_
  refine .bind (reads_blockItems hl h) (fun _ _ => rfl) fun l' hl' => .bind_cons .skip ?_
  exact .pure (by rw [unplacedBlock, hl', unplacedBlock])

theorem Block.ReadsBack.body {b : Block} (hb : b.ReadsBack style)
    (h : style.blockNesting b ≤ levels) :
    Reads (body (innerStatement levels)) (style.block b) Any
      (unplacedBlock · = unplacedBlock b) := by
  obtain ⟨braced, pos, l⟩ := b
  have hbraced := hb levels h
  rw [Style.block] at hbraced ⊢
  exact .peek? (fun _ _ => rfl) hbraced

theorem ElseReadsBack.none : ElseReadsBack style none := by
  intro levels _
  exact .bind_nil .eat_none (fun _ h => h) (.pure rfl)

theorem ElseReadsBack.some {b : Block} (hb : b.ReadsBack style) : ElseReadsBack style (some b) := by
  intro levels h
  rw [Style.elseBlock]
  refine .bind_cons .eat (.bind_last (hb.body h) (fun _ _ => trivial) fun b' hb' => .pure ?_)
  rw [unplacedElse, hb', unplacedElse]

/-! ## Statements with bodies -/

section Control

variable {yes body : Block} {no : Option Block}

theorem reads_branch {c : Cond} (hwritable : c.isWritable)
    (h : style.stmtNesting (.branch c yes no) ≤ levels) (hyes : yes.ReadsBack style)
    (hno : ElseReadsBack style no) :
    Reads (statementWithin levels) (style.stmt (.branch c yes no)) EndsStmt
      (unplacedStmt ·.node = unplacedStmt (.branch c yes no)) := by
  have hthen : ∀ ms, EndsCond (.word "then" :: ms) := fun ms => ⟨rfl, by simp, by simp⟩
  rw [Style.stmtNesting, Nat.max_le, Nat.max_le] at h
  rw [statementWithin_eq, Style.stmt]
  refine reads_statement rfl (by decide) ?_
  refine .bind (reads_test hwritable h.1) (fun _ _ => hthen _) fun c' hc => .bind_cons .expect ?_
  refine .bind (hyes.body h.2.1) (fun _ _ => trivial) fun yes' hyes' => ?_
  refine .bind_last (hno levels h.2.2) (fun _ hrest => hrest.2) fun no' hno' => .pure fun pos => ?_
  rw [unplacedStmt, hc, hyes', hno', unplacedStmt]

theorem reads_chance_branch {percent : Expr} (hwritable : percent.isWritable)
    (h : style.stmtNesting (.chance percent yes no) ≤ levels) (hyes : yes.ReadsBack style)
    (hno : ElseReadsBack style no) :
    Reads (statementWithin levels) (style.stmt (.chance percent yes no)) EndsStmt
      (unplacedStmt ·.node = unplacedStmt (.chance percent yes no)) := by
  rw [Style.stmtNesting, Nat.max_le, Nat.max_le] at h
  rw [statementWithin_eq, Style.stmt]
  refine reads_statement rfl (by decide) ?_
  refine .bind_eq (reads_whole hwritable h.1) (fun _ _ => endsExpr_cons rfl rfl _) ?_
  refine .bind_cons .expect (.bind_cons .expect ?_)
  refine .bind (hyes.body h.2.1) (fun _ _ => trivial) fun yes' hyes' => ?_
  refine .bind_last (hno levels h.2.2) (fun _ hrest => hrest.2) fun no' hno' => .pure fun pos => ?_
  rw [unplacedStmt, hyes', hno', unplacedStmt]

theorem reads_repeat {times : Expr} (hwritable : times.isWritable)
    (h : style.stmtNesting (.repeat times body) ≤ levels) (hbody : body.ReadsBack style) :
    Reads (statementWithin levels) (style.stmt (.repeat times body)) EndsStmt
      (unplacedStmt ·.node = unplacedStmt (.repeat times body)) := by
  rw [Style.stmtNesting, Nat.max_le] at h
  rw [statementWithin_eq, Style.stmt]
  refine reads_statement rfl (by decide) ?_
  refine .bind_eq (reads_whole hwritable h.1) (fun _ _ => endsExpr_word _ _) (.bind_cons .expect ?_)
  refine .bind_last (hbody.body h.2) (fun _ _ => trivial) fun body' hbody' => .pure fun pos => ?_
  rw [unplacedStmt, hbody', unplacedStmt]

theorem reads_parallel (h : style.blockNesting body ≤ levels) (hbody : body.ReadsBack style) :
    Reads (statementWithin levels) (style.stmt (.parallel body)) EndsStmt
      (unplacedStmt ·.node = unplacedStmt (.parallel body)) := by
  rw [statementWithin_eq, Style.stmt]
  refine reads_statement rfl (by decide) ?_
  refine .bind_last (hbody levels h) (fun _ _ => trivial) fun body' hbody' => .pure fun pos => ?_
  rw [unplacedStmt, hbody', unplacedStmt]

theorem reads_forEach {s : Located Selector} (hwritable : s.node.isWritable)
    (h : style.stmtNesting (.forEach s body) ≤ levels) (hbody : body.ReadsBack style) :
    Reads (statementWithin levels) (style.stmt (.forEach s body)) EndsStmt
      (unplacedStmt ·.node = unplacedStmt (.forEach s body)) := by
  rw [Style.stmtNesting, Nat.max_le] at h
  rw [statementWithin_eq, Style.stmt]
  refine reads_statement rfl (by decide) (.bind_cons .expect ?_)
  refine .bind (reads_selector hwritable h.1) (fun _ _ => rfl) fun s' hs => .bind_cons .expect ?_
  refine .bind_last (hbody.body h.2) (fun _ _ => trivial) fun body' hbody' => .pure fun pos => ?_
  rw [unplacedStmt, hs, hbody', unplacedStmt]

end Control

/-! ## All statements -/

theorem reads_simple {s : Stmt} {ls : List Lexeme}
    (h : Reads (statement levels (innerStatement levels)) ls EndsStmt (·.node = s)) :
    Reads (statementWithin levels) ls EndsStmt (unplacedStmt ·.node = unplacedStmt s) := by
  rw [statementWithin_eq]
  exact h.mono (fun _ h => h) fun _ hs => congrArg unplacedStmt hs

mutual

theorem Stmt.readsBack (style : Style) : (s : Stmt) → stmtIsWritable s → s.ReadsBack style
  | .deal kind _ who, hwritable, _, h => reads_simple (reads_deal kind who hwritable h)
  | .heal _ who, hwritable, _, h => reads_simple (reads_heal who hwritable h)
  | .move unit _, hwritable, _, h => reads_simple (reads_move unit hwritable h)
  | .dash who _, hwritable, _, h => reads_simple (reads_dash who hwritable h)
  | .line kind _ who _ _, hwritable, _, h => reads_simple (reads_line kind who hwritable h)
  | .setVar _ name _, hwritable, _, h => reads_simple (reads_setVar name hwritable h)
  | .addVar _ name _, hwritable, _, h => reads_simple (reads_addVar name hwritable h)
  | .removeVar _ name, hwritable, _, h => reads_simple (reads_removeVar name hwritable h)
  | .addTag _ tag, hwritable, _, h => reads_simple (reads_addTag tag hwritable h)
  | .removeTag _ tag, hwritable, _, h => reads_simple (reads_removeTag tag hwritable h)
  | .consumeMp _, hwritable, _, h => reads_simple (reads_consumeMp hwritable h)
  | .branch _ yes no, hwritable, _, h => by
    rw [stmtIsWritable, Bool.and_eq_true, Bool.and_eq_true] at hwritable
    exact reads_branch hwritable.1.1 h (yes.readsBack style hwritable.1.2)
      (else_readsBack style no hwritable.2)
  | .repeat _ body, hwritable, _, h => by
    rw [stmtIsWritable, Bool.and_eq_true] at hwritable
    exact reads_repeat hwritable.1 h (body.readsBack style hwritable.2)
  | .parallel body, hwritable, _, h => reads_parallel h (body.readsBack style hwritable)
  | .forEach _ body, hwritable, _, h => by
    rw [stmtIsWritable, Bool.and_eq_true] at hwritable
    exact reads_forEach hwritable.1 h (body.readsBack style hwritable.2)
  | .chance _ yes no, hwritable, _, h => by
    rw [stmtIsWritable, Bool.and_eq_true, Bool.and_eq_true] at hwritable
    exact reads_chance_branch hwritable.1.1 h (yes.readsBack style hwritable.1.2)
      (else_readsBack style no hwritable.2)

theorem Block.readsBack (style : Style) : (b : Block) → blockIsWritable b → b.ReadsBack style
  | .mk _ pos l, hwritable => by
    rw [blockIsWritable, Bool.and_eq_true] at hwritable
    obtain ⟨rfl, hl⟩ := hwritable
    exact .of_stmts (stmts_readBack style l hl) pos

theorem else_readsBack (style : Style) :
    (no : Option Block) → elseIsWritable no → ElseReadsBack style no
  | none, _ => .none
  | some b, hwritable => .some (b.readsBack style hwritable)

theorem stmts_readBack (style : Style) : (l : List (Located Stmt)) → stmtsAreWritable l →
    ∀ s ∈ l, s.node.ReadsBack style
  | [], _ => nofun
  | ⟨s, _⟩ :: l, hwritable => by
    rw [stmtsAreWritable, Bool.and_eq_true] at hwritable
    exact List.forall_mem_cons.2 ⟨s.readsBack style hwritable.1, stmts_readBack style l hwritable.2⟩

end

end Skirmish.Script
