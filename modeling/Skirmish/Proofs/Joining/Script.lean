import Skirmish.Proofs.Grammar.Document
import Skirmish.Proofs.Joining.Statement
import Skirmish.Proofs.Script.ControlFlow

/-!
# Scripts behind one another

The pieces of a script are read one after the other (`many_eq`), each of them as it is by itself in
front of the next one or of a closing brace (`many_scriptPiece_append`). So two scripts with a line
break between them are one script (`parseScript_append`).
-/

namespace Skirmish.Script

open Script.Parser

namespace Parser

variable {α : Type} {f : Pos → Pos} {before : List Lexeme} {pos finish : Pos} {t : Token}
  {tokens : List Token}

/-! ## Items one by one -/

section Many

variable {item : Parser (Option α)} (hitem : Productive item)

include hitem

/-- Reading items behind some is keeping those and reading the others. -/
theorem steps_keep (items : List α) :
    steps (fun items => (·.map (· :: items)) <$> item) items =
      (· ++ items) <$> steps (fun items => (·.map (· :: items)) <$> item) [] := by
  funext input
  induction hn : input.tokens.length using Nat.strongRecOn generalizing input items with
  | ind n ih =>
    rw [steps_eq hitem.keep, steps_eq hitem.keep, bind_map_left, bind_map_left, map_bind]
    cases hrun : item input with
    | error e => rw [bind_of_error hrun, bind_of_error hrun]
    | ok r =>
      obtain ⟨r, left⟩ := r
      rw [bind_of_ok hrun, bind_of_ok hrun]
      cases r with
      | none => rfl
      | some a =>
        obtain ⟨taken, htaken, -, hne⟩ := hitem _ _ _ hrun
        have hpos := List.length_pos_iff.2 (hne rfl)
        have hshorter : left.tokens.length < n := by
          rw [← hn, htaken, List.length_append]
          omega
        show steps _ (a :: items) left = ((· ++ items) <$> steps _ [a]) left
        rw [ih _ hshorter (a :: items) left rfl, map_of_eq (ih _ hshorter [a] left rfl),
          Functor.map_map]
        simp only [List.append_assoc, List.singleton_append]

/-- The items are the first one and those behind it. -/
theorem many_eq : many item = item >>= fun
    | none => pure []
    | some a => (a :: ·) <$> many item := by
  have hmany : many item = List.reverse <$> steps (fun items => (·.map (· :: items)) <$> item) [] :=
    rfl
  conv_lhs => rw [hmany, steps_eq hitem.keep, bind_map_left, map_bind]
  refine bind_congr fun r => ?_
  cases r with
  | none => rfl
  | some a =>
    show List.reverse <$> steps _ [a] = (a :: ·) <$> many item
    rw [hmany, steps_keep hitem, Functor.map_map, Functor.map_map]
    simp only [List.reverse_append, List.reverse_singleton, List.singleton_append]

end Many

/-! ## Metadata -/

theorem tracks_integer (what : String) :
    Tracks f pieceStarts before 0 Eq (integer what) (integer what) := by
  have hint : ∀ m n, int? m = some n → depthBehind? 0 m = some 0 := by
    intro m n h
    cases m with
    | symbol s => cases h
    | _ => rfl
  exact .bind_eat (by decide) rfl (.bind_eq (.take hint) fun _ _ => .pure rfl)
    (.bind_eq (.take hint) fun _ _ => .pure rfl)

theorem tracks_metaTail (w : String) :
    Tracks f pieceStarts before 0 Eq (metaTail w) (metaTail w) := by
  unfold metaTail
  dsimp only
  split
  case h_5 | h_6 => exact .bind_eq (tracks_named _ _) fun _ _ => .pure rfl
  case h_7 => exact .pure rfl
  all_goals exact .bind_eq (tracks_integer _) fun _ _ => .pure rfl

theorem tracksAt_metadata? :
    TracksAt f pieceStarts before 0 (Option.Rel fun m m' => m' = m.moved f) metadata? metadata?
      ⟨t :: tokens, finish⟩ := by
  refine .here (.take? (fun w hw => ⟨0, ?_, ?_⟩) fun _ => .pure .none)
  · obtain ⟨hword, -⟩ := Option.filter_eq_some_iff.1 hw
    obtain ⟨l, pos⟩ := t
    cases l with
    | symbol s => cases hword
    | _ => rfl
  · refine Tracks.bind_eq (tracks_metaTail w) (fun (m, number) _ => ?_) _
    dsimp only
    split
    · exact .failAt nofun
    · exact .pure (.some rfl)

/-! ## Pieces -/

/-- A piece of a script. -/
def piece : Parser Piece := do
  if let some m ← metadata? then return .declaration m
  else return .statement (← statementWithin maxNesting)

/-- A piece of a script, or none where the script ends. -/
def pieceRest (braced : Bool) : Parser (Option Piece) := do
  match ← peek? with
  | none => return none
  | some l =>
    if braced ∧ l = .symbol .rbrace then return none
    else if let some m ← metadata? then return some (.declaration m)
    else return some (.statement (← statementWithin maxNesting))

theorem scriptPiece_eq (braced : Bool) :
    scriptPiece braced = skipSemicolons >>= fun _ => pieceRest braced := rfl

theorem pieceRest_of_ne {braced : Bool} (h : ¬ (braced ∧ t.lexeme = .symbol .rbrace)) :
    pieceRest braced ⟨t :: tokens, finish⟩ = (some <$> piece) ⟨t :: tokens, finish⟩ := by
  have hrest : pieceRest braced ⟨t :: tokens, finish⟩ =
      (do
        if braced ∧ t.lexeme = .symbol .rbrace then return none
        else if let some m ← metadata? then return some (.declaration m)
        else return some (.statement (← statementWithin maxNesting)) : Parser (Option Piece))
          ⟨t :: tokens, finish⟩ := rfl
  unfold piece
  rw [hrest, if_neg h, map_bind]
  refine congrFun (bind_congr fun m => ?_) _
  cases m with
  | none =>
    show _ = some <$> (statementWithin maxNesting >>= fun s => pure (Piece.statement s))
    rw [map_bind]
    rfl
  | some m => rfl

theorem tracksAt_piece :
    TracksAt f pieceStarts before 0 (fun p p' => p' = p.moved f) piece piece
      ⟨t :: tokens, finish⟩ := by
  refine tracksAt_metadata?.bind fun m m' taken left hm _ _ => ?_
  cases hm with
  | none =>
    refine Tracks.bind (tracks_statementWithin maxNesting) (fun s s' hs _ => ?_) _
    exact .pure (congrArg Piece.statement hs)
  | some hm => exact .pure (congrArg Piece.declaration hm)

theorem productive_metadata? : Productive metadata? := by
  refine Takes.here fun pos => Takes.mono (?_ : Productive _) fun _ _ h _ => h
  refine Takes.bind (.take? _) fun taken r hr => ?_
  obtain ⟨rfl, rfl⟩ | ⟨t, w, rfl, rfl, -⟩ := hr
  · exact .pure nofun
  · refine .bind (plain_metaTail w) fun _ (m, number) _ => ?_
    dsimp only
    split
    · exact .failAt _ _
    · exact .pure fun _ => nofun

theorem productive_scriptPiece (braced : Bool) : Productive (scriptPiece braced) := by
  refine Takes.bind (.skipAll _) fun _ _ _ => .bind .peek? fun _ l? hl? => ?_
  split
  · exact .pure nofun
  split
  · exact .pure nofun
  refine .bind productive_metadata? fun taken m hm => ?_
  split
  · refine .pure fun _ => ?_
    simp [hm rfl]
  · refine .bind (takes_statementWithin maxNesting) fun taken' s hs => .pure fun _ => ?_
    simp [hs]

/-! ## What pieces begin with -/

theorem mem_statementWords {levels : Nat} {inner : Parser (Located Stmt)} {w : String}
    {tail : Parser Stmt} (h : statementTail? levels inner w = some tail) : w ∈ statementWords := by
  unfold statementTail? at h
  split at h
  case h_15 => cases h
  all_goals decide

theorem statement_begins {levels : Nat} {inner : Parser (Located Stmt)} {r : Located Stmt × TokenList}
    (h : statement levels inner ⟨t :: tokens, finish⟩ = .ok r) :
    ∃ w ∈ statementWords, t.lexeme = .word w := by
  obtain ⟨l, pos⟩ := t
  cases l with
  | word w =>
    refine ⟨w, ?_, rfl⟩
    rw [statement_word] at h
    split at h
    · cases h
    cases htail : statementTail? levels inner w with
    | none =>
      rw [htail] at h
      cases h
    | some tail => exact mem_statementWords htail
  | _ => cases h

theorem statementWithin_begins {levels : Nat} {r : Located Stmt × TokenList}
    (h : statementWithin levels ⟨t :: tokens, finish⟩ = .ok r) :
    ∃ w ∈ statementWords, t.lexeme = .word w := by
  cases levels with
  | zero => exact statement_begins h
  | succ levels => exact statement_begins h

theorem piece_begins {r : Piece × TokenList} (h : piece ⟨t :: tokens, finish⟩ = .ok r) :
    ∃ w ∈ metaWords ++ statementWords, t.lexeme = .word w := by
  cases hword : (word? t.lexeme).filter metaWords.contains with
  | some w =>
    obtain ⟨hword, hmem⟩ := Option.filter_eq_some_iff.1 hword
    refine ⟨w, List.mem_append_left _ (List.contains_iff_mem.1 hmem), ?_⟩
    obtain ⟨l, pos⟩ := t
    cases l with
    | word w' => exact congrArg Lexeme.word (Option.some.inj hword)
    | _ => cases hword
  | none =>
    have hmeta : metadata? ⟨t :: tokens, finish⟩ = .ok (none, ⟨t :: tokens, finish⟩) := by
      have hhere : here ⟨t :: tokens, finish⟩ = .ok (t.pos, ⟨t :: tokens, finish⟩) := rfl
      unfold metadata?
      rw [bind_of_ok hhere, bind_take?_none hword]
      rfl
    unfold piece at h
    rw [bind_of_ok hmeta] at h
    obtain ⟨s, mid, hstatement, -⟩ := bind_eq_ok.1 h
    obtain ⟨w, hw, ht⟩ := statementWithin_begins hstatement
    exact ⟨w, List.mem_append_right _ hw, ht⟩

/-- Where a script goes on, it goes on with one of these. -/
theorem script_begins {r : List Piece × TokenList}
    (h : many (scriptPiece false) ⟨t :: tokens, finish⟩ = .ok r) : t.lexeme ∈ pieceStarts := by
  by_cases hsemi : t.lexeme = .symbol .semi
  · rw [hsemi]
    decide
  by_cases hbrace : t.lexeme = .symbol .rbrace
  · rw [hbrace]
    decide
  rw [many_eq (productive_scriptPiece false), scriptPiece_eq] at h
  obtain ⟨_, mid, hpiece, -⟩ := bind_eq_ok.1 h
  rw [bind_skipSemicolons_ne hsemi, pieceRest_of_ne fun h => Bool.false_ne_true h.1] at hpiece
  obtain ⟨_, hpiece, -⟩ := map_eq_ok hpiece
  obtain ⟨w, hw, ht⟩ := piece_begins hpiece
  rw [ht]
  exact List.mem_append_right _ (List.mem_map_of_mem hw)

/-! ## Pieces in front of something -/

theorem many_scriptPiece_semi {braced : Bool} (h : t.lexeme = .symbol .semi) :
    many (scriptPiece braced) ⟨t :: tokens, finish⟩ = many (scriptPiece braced) ⟨tokens, finish⟩ := by
  rw [many_eq (productive_scriptPiece braced), scriptPiece_eq]
  exact bind_of_eq (bind_skipSemicolons_semi h)

/-- A piece is read as it is by itself in front of more pieces and of anything that one may begin
with. -/
theorem scriptPiece_of_piece {p : Piece} {left : TokenList} {rest : List Token}
    (hsemi : t.lexeme ≠ .symbol .semi) (h : piece ⟨t :: tokens, finish⟩ = .ok (p, left))
    (hrest : Meets f pieceStarts [] rest) (braced : Bool) (finish' : Pos) :
    scriptPiece braced ⟨(t :: tokens).map (Token.moved f) ++ rest, finish'⟩ =
      .ok (some (p.moved f), ⟨left.tokens.map (Token.moved f) ++ rest, finish'⟩) := by
  have htracks : TracksAt f pieceStarts [] 0 (fun p p' => p' = p.moved f) piece piece
    ⟨t :: tokens, finish⟩ := tracksAt_piece
  obtain ⟨taken, p', hinput, rfl, -, hok⟩ := htracks.ok h
  have hmeets : Meets f pieceStarts left.tokens (left.tokens.map (Token.moved f) ++ rest) := by
    have happend := hrest.append left.tokens
    rwa [List.append_nil] at happend
  have hmoved := hok _ finish' hmeets
  rw [← List.append_assoc, ← List.map_append, ← (TokenList.mk.inj hinput).1] at hmoved
  have hbrace : t.lexeme ≠ .symbol .rbrace := by
    obtain ⟨w, -, hw⟩ := piece_begins h
    rw [hw]
    exact nofun
  exact (bind_skipSemicolons_ne (t := t.moved f) hsemi).trans
    ((pieceRest_of_ne (t := t.moved f) fun h => hbrace h.2).trans (map_of_ok hmoved))

/-- The pieces of a whole script are read in front of anything that a piece may begin with, a closing
brace among it. -/
theorem many_scriptPiece_append {pieces : List Piece} {finish' : Pos} {rest : List Token}
    (h : many (scriptPiece false) ⟨tokens, finish⟩ = .ok (pieces, ⟨[], finish'⟩))
    (hrest : Meets f pieceStarts [] rest) (braced : Bool) (finish'' : Pos) :
    many (scriptPiece braced) ⟨tokens.map (Token.moved f) ++ rest, finish''⟩ =
      ((pieces.map (Piece.moved f) ++ ·) <$> many (scriptPiece braced)) ⟨rest, finish''⟩ := by
  induction hn : tokens.length using Nat.strongRecOn generalizing tokens pieces finish with
  | ind n ih =>
    obtain _ | ⟨t, tokens⟩ := tokens
    · cases h
      show _ = (id <$> many (scriptPiece braced)) _
      rw [id_map]
      rfl
    by_cases hsemi : t.lexeme = .symbol .semi
    · rw [many_scriptPiece_semi hsemi] at h
      refine (many_scriptPiece_semi (t := t.moved f) hsemi).trans (ih _ ?_ h rfl)
      exact hn ▸ Nat.lt_succ_self _
    rw [many_eq (productive_scriptPiece false)] at h
    obtain ⟨r, left, hitem, h⟩ := bind_eq_ok.1 h
    obtain ⟨taken, htaken, -, hne⟩ := productive_scriptPiece false _ _ _ hitem
    rw [scriptPiece_eq, bind_skipSemicolons_ne hsemi,
      pieceRest_of_ne fun h => Bool.false_ne_true h.1] at hitem
    obtain ⟨p, hpiece, rfl⟩ := map_eq_ok hitem
    obtain ⟨pieces, hmany, rfl⟩ := map_eq_ok h
    have hshorter : left.tokens.length < n := by
      have hpos := List.length_pos_iff.2 (hne rfl)
      rw [← hn, show t :: tokens = _ from htaken, List.length_append]
      omega
    refine (congrFun (many_eq (productive_scriptPiece braced)) _).trans
      ((bind_of_ok (scriptPiece_of_piece hsemi hpiece hrest braced finish'')).trans ?_)
    show ((p.moved f :: ·) <$> many (scriptPiece braced)) _ = _
    rw [map_of_eq (ih _ hshorter hmany rfl), Functor.map_map]
    rfl

/-- A script that stands by itself ends where its text does. -/
theorem scriptPiece_end {input left : TokenList} (h : scriptPiece false input = .ok (none, left)) :
    left.tokens = [] := by
  rw [scriptPiece_eq] at h
  obtain ⟨_, ⟨_ | ⟨t, tokens⟩, finish⟩, -, h⟩ := bind_eq_ok.1 h
  · cases h
    rfl
  · rw [pieceRest_of_ne fun h => Bool.false_ne_true h.1] at h
    obtain ⟨_, -, h⟩ := map_eq_ok h
    cases h

end Parser

/-! ## Whole scripts -/

theorem ofPieces_append (l m : List Piece) :
    ofPieces (l ++ m) = ⟨(ofPieces l).metas ++ (ofPieces m).metas,
      (ofPieces l).stmts ++ (ofPieces m).stmts⟩ := by
  rw [ofPieces, List.filterMap_append, List.filterMap_append]
  rfl

theorem ofPieces_moved (f : Pos → Pos) (l : List Piece) :
    ofPieces (l.map (Piece.moved f)) = (ofPieces l).moved f := by
  have hmetas : (l.map (Piece.moved f)).filterMap Piece.declaration? =
      (l.filterMap Piece.declaration?).map (Located.moved f) := by
    rw [List.filterMap_map, List.map_filterMap]
    refine congrArg (List.filterMap · l) (funext fun p => ?_)
    cases p <;> rfl
  have hstmts : (l.map (Piece.moved f)).filterMap Piece.statement? =
      movedStmts f (l.filterMap Piece.statement?) := by
    rw [movedStmts_eq_map, List.filterMap_map, List.map_filterMap]
    refine congrArg (List.filterMap · l) (funext fun p => ?_)
    cases p <;> rfl
  rw [ofPieces, hmetas, hstmts]
  rfl

theorem script_eq (braced : Bool) : script braced = ofPieces <$> many (scriptPiece braced) := rfl

/-- A script that stands by itself is followed by nothing. -/
theorem script_end {input left : TokenList} {s : Script}
    (h : script false input = .ok (s, left)) : left.tokens = [] := by
  rw [script_eq] at h
  obtain ⟨pieces, hmany, -⟩ := map_eq_ok h
  obtain ⟨mid, hend⟩ := many_end (productive_scriptPiece false) hmany
  exact scriptPiece_end hend

/-- A text is a script if it is a list of pieces. -/
theorem parseScript_iff {text : String} {s : Script} :
    parseScript text = .ok s ↔ ∃ input pieces, scan text = .ok input ∧
      many (scriptPiece false) input = .ok (pieces, ⟨[], input.finish⟩) ∧ s = ofPieces pieces := by
  constructor
  · intro h
    obtain ⟨input, rest, hscan, hrun⟩ := parseText_eq_ok h
    obtain ⟨taken, -, hfinish, -⟩ := places_script false _ _ _ hrun
    have hend := script_end hrun
    rw [script_eq] at hrun
    obtain ⟨pieces, hmany, rfl⟩ := map_eq_ok hrun
    obtain ⟨tokens, finish⟩ := rest
    obtain rfl : tokens = [] := hend
    obtain rfl : input.finish = finish := hfinish
    exact ⟨input, pieces, hscan, hmany, rfl⟩
  · rintro ⟨input, pieces, hscan, hmany, rfl⟩
    have hrun : script false input = .ok (ofPieces pieces, ⟨[], input.finish⟩) :=
      map_of_ok (g := ofPieces) hmany
    unfold parseScript parseText
    rw [hscan]
    show (script false input >>= _) = _
    rw [hrun]
    rfl

/-- Two scripts, one behind the other with a line break between them, are one script: the metadata and
the statements of both, those of the second one further down. -/
theorem parseScript_append {s t : String} {a b : Script} (hs : parseScript s = .ok a)
    (ht : parseScript t = .ok b) :
    parseScript (s ++ "\n" ++ t) =
      .ok ⟨a.metas ++ (b.moved (Pos.down (linesOf s))).metas,
        a.stmts ++ (b.moved (Pos.down (linesOf s))).stmts⟩ := by
  obtain ⟨first, pieces, hfirst, hpieces, rfl⟩ := parseScript_iff.1 hs
  obtain ⟨second, pieces', hsecond, hpieces', rfl⟩ := parseScript_iff.1 ht
  generalize hdown : Pos.down (linesOf s) = down
  have hscan : scan (s ++ "\n" ++ t) = .ok
      ⟨first.tokens ++ second.tokens.map (Token.moved down), down second.finish⟩ := by
    rw [scan_newline hfirst, hsecond, hdown]
    rfl
  obtain ⟨tokens, finish⟩ := first
  obtain ⟨tokens', finish'⟩ := second
  have hmeets : Meets id pieceStarts [] (tokens'.map (Token.moved down)) := by
    obtain _ | ⟨t, tokens'⟩ := tokens'
    · exact .nothing
    · have hbegins : t.lexeme ∈ pieceStarts := script_begins hpieces'
      exact .next (t := t.moved down) hbegins _
  have hfront := many_scriptPiece_append hpieces hmeets false (down finish')
  have hback := many_scriptPiece_append (f := down) hpieces' .nothing false (down finish')
  have hmany : many (scriptPiece false) ⟨tokens ++ tokens'.map (Token.moved down), down finish'⟩ =
      .ok (pieces ++ pieces'.map (Piece.moved down), ⟨[], down finish'⟩) := by
    have hid : tokens.map (Token.moved id) = tokens ∧ pieces.map (Piece.moved id) = pieces :=
      ⟨List.map_id' tokens, (List.map_congr_left fun p _ => p.moved_id).trans (List.map_id' pieces)⟩
    rw [List.append_nil] at hback
    rw [hid.1, hid.2, map_of_eq hback] at hfront
    have hend : many (scriptPiece false) ⟨[], down finish'⟩ = .ok ([], ⟨[], down finish'⟩) := rfl
    rw [hfront, Functor.map_map, map_of_ok hend, List.append_nil]
  rw [parseScript_iff]
  refine ⟨_, _, hscan, hmany, ?_⟩
  rw [ofPieces_append, ofPieces_moved]

/-- A text that ends with an expression. -/
def healText : String := "range 3\nif self.Mp > 2 then heal 1 + 2 to self"

/-- A text that begins with a word that conditions begin with as well. -/
def chanceText : String := "chance 50% then line 5 to target length 2\ncooldown 1"

theorem parseScript_append_chance : ∃ a b, parseScript healText = .ok a ∧
    parseScript chanceText = .ok b ∧
    parseScript (healText ++ "\n" ++ chanceText) =
      .ok ⟨a.metas ++ (b.moved (Pos.down 2)).metas, a.stmts ++ (b.moved (Pos.down 2)).stmts⟩ := by
  have hfirst : (parseScript healText).toOption.isSome := by decide +kernel
  have hsecond : (parseScript chanceText).toOption.isSome := by decide +kernel
  cases ha : parseScript healText with
  | error e =>
    rw [ha] at hfirst
    cases hfirst
  | ok a =>
    cases hb : parseScript chanceText with
    | error e =>
      rw [hb] at hsecond
      cases hsecond
    | ok b => exact ⟨a, b, rfl, rfl, parseScript_append ha hb⟩

example : (parseScript (healText ++ "\n" ++ chanceText)).toOption.map (fun s =>
    (s.metas.map Located.pos, s.stmts.map Located.pos)) =
      some ([⟨1, 1⟩, ⟨4, 1⟩], [⟨2, 1⟩, ⟨3, 1⟩]) := by decide +kernel

end Skirmish.Script
