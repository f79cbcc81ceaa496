import Skirmish.Script.Scan

/-!
# Scanning a text behind another one

A line break ends whatever a text may end with, so behind it another text is read as it is by itself,
further down (`scan_newline`).
-/

namespace Skirmish.Script

/-! ## Positions further down -/

namespace Pos

/-- The position some lines further down. -/
def down (n : Nat) (p : Pos) : Pos := ⟨p.line + n, p.column⟩

theorem after_down (n : Nat) (p : Pos) (c : Char) : (p.down n).after c = (p.after c).down n := by
  unfold after down
  split
  · rw [Nat.add_right_comm]
  · rfl

theorem afterAll_down (n : Nat) (p : Pos) (cs : List Char) :
    (p.down n).afterAll cs = (p.afterAll cs).down n := by
  induction cs generalizing p with
  | nil => rfl
  | cons c cs ih =>
    show ((p.down n).after c).afterAll cs = ((p.after c).afterAll cs).down n
    rw [after_down, ih]

theorem line_afterAll (p : Pos) (cs : List Char) : (p.afterAll cs).line = p.line + cs.count '\n' := by
  induction cs generalizing p with
  | nil => rfl
  | cons c cs ih =>
    show ((p.after c).afterAll cs).line = _
    rw [ih, List.count_cons]
    unfold after
    split
    · next h => simp [h]; omega
    · next h => simp [h]

end Pos

def Token.moved (f : Pos → Pos) (t : Token) : Token := ⟨t.lexeme, f t.pos⟩

def TokenList.moved (f : Pos → Pos) (input : TokenList) : TokenList :=
  ⟨input.tokens.map (Token.moved f), f input.finish⟩

def ParseError.moved (f : Pos → Pos) (e : ParseError) : ParseError := ⟨e.fault, f e.pos⟩

/-- What is read of a text whose first character begins a token. -/
def scanToken (pos : Pos) : List Char → Except ParseError TokenList
  | [] => pure ⟨[], pos⟩
  | c :: rest =>
    match lexeme c rest with
    | .error fault => throw ⟨fault, pos⟩
    | .ok (lex, used) => do
      let more ← scanFrom ((pos.after c).afterAll (rest.take used)) (rest.drop used)
      pure { more with tokens := ⟨lex, pos⟩ :: more.tokens }

theorem scanFrom_eq (pos : Pos) (cs : List Char) :
    scanFrom pos cs = scanToken (pos.afterAll (cs.take (triviaLength false cs)))
      (cs.drop (triviaLength false cs)) := by
  rw [scanFrom]
  dsimp only
  split
  · next h => rw [h]; rfl
  · next c rest h => rw [h]; rfl

/-- Further down a text is read as further up. -/
theorem scanFrom_down (n : Nat) (pos : Pos) (cs : List Char) :
    scanFrom (pos.down n) cs =
      ((scanFrom pos cs).map (TokenList.moved (Pos.down n))).mapError (ParseError.moved (Pos.down n)) := by
  fun_induction scanFrom pos cs with
  | case1 pos cs skipped start hrest =>
    rw [scanFrom_eq, hrest, Pos.afterAll_down]
    rfl
  | case2 pos cs skipped start c rest hrest shorter fault hlex =>
    rw [scanFrom_eq, hrest, Pos.afterAll_down, scanToken, hlex]
    rfl
  | case3 pos cs skipped start c rest hrest shorter lex used hlex ih =>
    rw [scanFrom_eq, hrest, Pos.afterAll_down, scanToken, hlex]
    dsimp only
    rw [Pos.after_down, Pos.afterAll_down, ih]
    cases scanFrom ((start.after c).afterAll (rest.take used)) (rest.drop used) <;> rfl

theorem triviaLength_le (inComment : Bool) (cs : List Char) : triviaLength inComment cs ≤ cs.length := by
  fun_induction triviaLength inComment cs <;> simp only [List.length_cons, List.length_nil] <;> omega

theorem head?_append_newline (cs ds : List Char) {c : Char} (h : c ≠ '\n') :
    (cs ++ '\n' :: ds).head? = some c ↔ cs.head? = some c := by
  cases cs with
  | nil =>
    constructor
    · intro heq
      exact absurd (Option.some.inj heq).symm h
    · nofun
  | cons => rfl

theorem triviaLength_newline (inComment : Bool) (cs ds : List Char) :
    triviaLength inComment (cs ++ '\n' :: ds) =
      if triviaLength inComment cs = cs.length then cs.length + 1 + triviaLength false ds
      else triviaLength inComment cs := by
  induction cs generalizing inComment with
  | nil =>
    have hblank : Text.isBlank '\n' = true := by decide
    cases inComment <;> simp [triviaLength, hblank, Nat.add_comm]
  | cons c cs ih =>
    have hslash := head?_append_newline cs ds (c := '/') (by decide)
    simp only [List.cons_append, triviaLength, hslash, ih, List.length_cons]
    grind

/-! ## Tokens -/

theorem stringBody_append {cs : List Char} {text : List Char} {used : Nat}
    (h : stringBody cs = some (text, used)) (ds : List Char) :
    used ≤ cs.length ∧ stringBody (cs ++ ds) = some (text, used) := by
  fun_induction stringBody cs generalizing text used with
  | case1 => cases h
  | case2 => cases h
  | case3 => cases h
  | case4 => 
    cases h
    exact ⟨Nat.succ_le_succ (Nat.zero_le _), by rw [List.cons_append, stringBody]⟩
  | case5 c rest meaning =>
    rename_i ih
    obtain ⟨⟨text, used⟩, hrest, hmap⟩ := Option.map_eq_some_iff.1 h
    obtain ⟨hle, happend⟩ := ih hrest
    cases hmap
    refine ⟨Nat.succ_le_succ (Nat.succ_le_succ hle), ?_⟩
    show (stringBody (rest ++ ds)).map _ = _
    rw [happend]
    rfl
  | case6 c rest hbreak hend hquote hescape ih =>
    obtain ⟨⟨text, used⟩, hrest, hmap⟩ := Option.map_eq_some_iff.1 h
    obtain ⟨hle, happend⟩ := ih hrest
    cases hmap
    refine ⟨Nat.succ_le_succ hle, ?_⟩
    have hslash : c ≠ '\\' := by
      rintro rfl
      cases rest with
      | nil => exact hend rfl rfl
      | cons d rest => exact hescape d rest rfl rfl
    rw [List.cons_append, stringBody, happend]
    · rfl
    · exact hbreak
    · exact fun hc _ => hslash hc
    · exact hquote
    · exact fun _ _ hc _ => hslash hc

/-- A number ends at the end of its line. -/
theorem numberBody_newline (hasPoint : Bool) (cs ds : List Char) :
    (numberBody hasPoint cs).2 ≤ cs.length ∧
      numberBody hasPoint (cs ++ '\n' :: ds) = numberBody hasPoint cs := by
  induction cs generalizing hasPoint with
  | nil => exact ⟨Nat.zero_le _, rfl⟩
  | cons c cs ih =>
    have hpoint : ((cs ++ '\n' :: ds).head?.map Char.isDigit).getD false =
        (cs.head?.map Char.isDigit).getD false := by
      cases cs <;> rfl
    simp only [List.cons_append, numberBody, hpoint, (ih _).2, List.length_cons]
    refine ⟨?_, trivial⟩
    have hle := fun hasPoint => (ih hasPoint).1
    grind

theorem number_newline {cs : List Char} {lex : Lexeme} {used : Nat}
    (h : number cs = .ok (lex, used)) (ds : List Char) :
    used ≤ cs.length ∧ number (cs ++ '\n' :: ds) = .ok (lex, used) := by
  obtain ⟨hle, hbody⟩ := numberBody_newline false cs ds
  have hhead : ((cs ++ '\n' :: ds).drop (numberBody false cs).2).head?.filter Text.isLetter =
      (cs.drop (numberBody false cs).2).head?.filter Text.isLetter := by
    rw [List.drop_append_of_le_length hle]
    cases cs.drop (numberBody false cs).2 <;> rfl
  have hnumber : number (cs ++ '\n' :: ds) = number cs := by
    simp only [number, hbody, hhead]
  refine ⟨?_, hnumber.trans h⟩
  rw [number] at h
  dsimp only at h
  split at h
  · cases h
  · split at h
    · cases h
      exact hle
    · cases h

theorem symbol?_newline (c : Char) (cs ds : List Char) :
    symbol? c (cs ++ '\n' :: ds).head? = symbol? c cs.head? := by
  cases cs with
  | nil =>
    show symbol? c (some '\n') = symbol? c none
    unfold symbol?
    split
    case h_1 heq | h_2 heq | h_3 heq | h_4 heq => cases heq
    case h_20 => simp_all
    all_goals rfl
  | cons => rfl

/-- Only a symbol of two characters takes the character behind the first. -/
theorem length_spelling_le {c : Char} {next : Option Char} {s : Symbol}
    (h : symbol? c next = some s) : s.spelling.length - 1 ≤ next.toList.length := by
  unfold symbol? at h
  split at h <;> cases h
  case h_1 | h_2 | h_3 | h_4 => decide
  all_goals exact Nat.zero_le _

/-- A token that ends a line, or lies on it, does not reach beyond the line. -/
theorem lexeme_newline {c : Char} {rest : List Char} {lex : Lexeme} {used : Nat}
    (h : lexeme c rest = .ok (lex, used)) (ds : List Char) :
    used ≤ rest.length ∧ lexeme c (rest ++ '\n' :: ds) = .ok (lex, used) := by
  unfold lexeme at h ⊢
  split at h
  · next hquote =>
    rw [if_pos hquote]
    cases hbody : stringBody rest with
    | none =>
      rw [hbody] at h
      cases h
    | some body =>
      obtain ⟨hle, happend⟩ := stringBody_append hbody ('\n' :: ds)
      rw [hbody] at h
      rw [happend]
      cases h
      exact ⟨hle, rfl⟩
  next hquote =>
  rw [if_neg hquote]
  split at h
  · next hdigit =>
    rw [if_pos hdigit]
    cases hnumber : number (c :: rest) with
    | error =>
      rw [hnumber] at h
      cases h
    | ok value =>
      obtain ⟨hle, happend⟩ := number_newline hnumber ds
      rw [hnumber] at h
      rw [← List.cons_append, happend]
      cases h
      exact ⟨Nat.sub_le_of_le_add hle, rfl⟩
  next hdigit =>
  rw [if_neg hdigit]
  split at h
  · next hword =>
    rw [if_pos hword]
    cases h
    have hword : (rest ++ '\n' :: ds).takeWhile continuesWord = rest.takeWhile continuesWord := by
      rw [List.takeWhile_append]
      split
      · next hlen => 
        have : rest.takeWhile continuesWord = rest := (List.takeWhile_prefix _).eq_of_length hlen
        rw [List.takeWhile_cons, if_neg (by decide), List.append_nil, this]
      · rfl
    rw [hword]
    exact ⟨(List.takeWhile_sublist _).length_le, rfl⟩
  · next hword =>
    rw [if_neg hword, symbol?_newline]
    cases hsymbol : symbol? c rest.head? with
    | none =>
      rw [hsymbol] at h
      cases h
    | some s =>
      rw [hsymbol] at h
      cases h
      refine ⟨Nat.le_trans (length_spelling_le hsymbol) ?_, rfl⟩
      cases rest <;> simp

/-! ## Texts -/

/-- A text is read to its end. -/
theorem finish_scanFrom {pos : Pos} {cs : List Char} {input : TokenList}
    (h : scanFrom pos cs = .ok input) : input.finish = pos.afterAll cs := by
  fun_induction scanFrom pos cs generalizing input with
  | case1 pos cs skipped start =>
    rename_i hrest
    cases h
    show pos.afterAll (cs.take skipped) = pos.afterAll cs
    rw [List.take_of_length_le (List.drop_eq_nil_iff.1 hrest)]
  | case2 => cases h
  | case3 pos cs skipped start c rest hrest shorter lex used hlex =>
    rename_i ih
    cases hmore : scanFrom ((start.after c).afterAll (rest.take used)) (rest.drop used) with
    | error e =>
      rw [hmore] at h
      cases h
    | ok more =>
      rw [hmore] at h
      cases h
      show more.finish = pos.afterAll cs
      have hcs : cs = cs.take skipped ++ c :: (rest.take used ++ rest.drop used) := by
        rw [List.take_append_drop, ← hrest, List.take_append_drop]
      rw [ih hmore, hcs]
      unfold Pos.afterAll
      rw [List.foldl_append, List.foldl_cons, List.foldl_append]
      rfl

/-- A text goes on behind a line break as if it began there. -/
theorem scanFrom_newline {pos : Pos} {cs : List Char} {input : TokenList}
    (h : scanFrom pos cs = .ok input) (ds : List Char) :
    scanFrom pos (cs ++ '\n' :: ds) =
      (scanFrom (input.finish.after '\n') ds).map fun more =>
        ⟨input.tokens ++ more.tokens, more.finish⟩ := by
  fun_induction scanFrom pos cs generalizing input with
  | case1 pos cs skipped start =>
    rename_i hrest
    cases h
    have hall : triviaLength false cs = cs.length :=
      Nat.le_antisymm (triviaLength_le false cs) (List.drop_eq_nil_iff.1 hrest)
    rw [scanFrom_eq, scanFrom_eq (start.after '\n'), triviaLength_newline, if_pos hall]
    have hstart : start = pos.afterAll cs := by rw [← List.take_length (l := cs), ← hall]
    have htake : (cs ++ '\n' :: ds).take (cs.length + 1 + triviaLength false ds) =
        cs ++ '\n' :: ds.take (triviaLength false ds) := by
      rw [Nat.add_assoc, List.take_length_add_append, Nat.add_comm 1, List.take_succ_cons]
    have hdrop : (cs ++ '\n' :: ds).drop (cs.length + 1 + triviaLength false ds) =
        ds.drop (triviaLength false ds) := by
      rw [Nat.add_assoc, List.drop_length_add_append, Nat.add_comm 1, List.drop_succ_cons]
    have hpos : pos.afterAll (cs ++ '\n' :: ds.take (triviaLength false ds)) =
        (start.after '\n').afterAll (ds.take (triviaLength false ds)) := by
      rw [hstart]
      exact List.foldl_append
    rw [htake, hdrop, hpos]
    cases scanToken _ (ds.drop (triviaLength false ds)) <;> rfl
  | case2 => cases h
  | case3 pos cs skipped start c rest hrest shorter lex used hlex =>
    rename_i ih
    have hsome : triviaLength false cs ≠ cs.length := by
      intro hall
      rw [List.drop_of_length_le (Nat.le_of_eq hall.symm)] at hrest
      cases hrest
    obtain ⟨hle, happend⟩ := lexeme_newline hlex ds
    cases hmore : scanFrom ((start.after c).afterAll (rest.take used)) (rest.drop used) with
    | error e =>
      rw [hmore] at h
      cases h
    | ok more =>
      rw [hmore] at h
      cases h
      rw [scanFrom_eq, triviaLength_newline, if_neg hsome,
        List.take_append_of_le_length (triviaLength_le false cs),
        List.drop_append_of_le_length (triviaLength_le false cs), hrest, List.cons_append, scanToken,
        happend]
      dsimp only
      rw [List.take_append_of_le_length hle, List.drop_append_of_le_length hle, ih hmore]
      cases scanFrom (more.finish.after '\n') ds <;> rfl

/-- How far down a text begins that stands behind another one and a line break. -/
def linesOf (text : String) : Nat := text.toList.count '\n' + 1

/-- A text behind another one is read as it is by itself, further down. -/
theorem scan_newline {s : String} {input : TokenList} (h : scan s = .ok input) (t : String) :
    scan (s ++ "\n" ++ t) =
      (((scan t).map (TokenList.moved (Pos.down (linesOf s)))).mapError
        (ParseError.moved (Pos.down (linesOf s)))).map fun more =>
          ⟨input.tokens ++ more.tokens, more.finish⟩ := by
  have htext : (s ++ "\n" ++ t).toList = s.toList ++ '\n' :: t.toList := by
    rw [String.toList_append, String.toList_append, List.append_assoc]
    rfl
  have hstart : input.finish.after '\n' = Pos.start.down (linesOf s) := by
    rw [finish_scanFrom h]
    unfold Pos.after Pos.down linesOf
    rw [if_pos rfl, Pos.line_afterAll, Nat.add_assoc]
    rfl
  unfold scan
  rw [htext, scanFrom_newline h, hstart, scanFrom_down]

end Skirmish.Script
