import Mathlib.Data.List.Induction
import Skirmish.Proofs.Joining.Scan

/-!
# Where tokens begin

A text is cut into tokens with blanks and comments in front of them (`Cut`). The position of a token
is the line and column of its first character, counted in the text and not by the scanner
(`Pos.ofIndex`), and the end of the text is behind all of its characters (`scan_entries`). A text
below another one keeps its tokens and its columns (`scan_below`).
-/

namespace Skirmish.Script

/-! ## Counting lines and columns -/

namespace Pos

/-- The position behind the characters that a text begins with: one line more than there are line
breaks among them, and one column more than there are characters behind the last one. -/
def behind (front : List Char) : Pos :=
  ⟨1 + front.count '\n', 1 + (front.reverse.takeWhile (· != '\n')).length⟩

/-- The position of the character with an index, or of the end of the text. -/
def ofIndex (text : List Char) (i : Nat) : Pos := behind (text.take i)

/-- Further down, or further to the right on the same line. -/
instance : LT Pos := ⟨fun p q => p.line < q.line ∨ p.line = q.line ∧ p.column < q.column⟩

variable {p q r : Pos}

theorem lt_iff : p < q ↔ p.line < q.line ∨ p.line = q.line ∧ p.column < q.column := Iff.rfl

theorem lt_trans (hpq : p < q) (hqr : q < r) : p < r := by
  rw [lt_iff] at *
  omega

theorem atMost_of_lt (h : p < q) : p.atMost q := by
  rw [lt_iff] at h
  simp only [atMost, Bool.or_eq_true, Bool.and_eq_true, decide_eq_true_eq, beq_iff_eq]
  omega

theorem atMost_refl (p : Pos) : p.atMost p := by simp [atMost]

theorem lt_after (p : Pos) (c : Char) : p < p.after c := by
  rw [lt_iff, after]
  split
  · exact .inl (Nat.lt_succ_self _)
  · exact .inr ⟨rfl, Nat.lt_succ_self _⟩

theorem afterAll_cons (p : Pos) (c : Char) (cs : List Char) :
    p.afterAll (c :: cs) = (p.after c).afterAll cs := rfl

theorem afterAll_append (p : Pos) (cs ds : List Char) :
    p.afterAll (cs ++ ds) = (p.afterAll cs).afterAll ds := List.foldl_append

theorem lt_afterAll {cs : List Char} (h : cs ≠ []) (p : Pos) : p < p.afterAll cs := by
  induction cs generalizing p with
  | nil => exact absurd rfl h
  | cons c cs ih =>
    rw [afterAll_cons]
    cases cs with
    | nil => exact lt_after p c
    | cons d cs => exact lt_trans (lt_after p c) (ih (List.cons_ne_nil _ _) _)

theorem behind_concat (front : List Char) (c : Char) :
    behind (front ++ [c]) = (behind front).after c := by
  unfold behind after
  rw [List.count_append, List.count_singleton, List.reverse_append, List.reverse_singleton,
    List.singleton_append, List.takeWhile_cons]
  by_cases h : c = '\n'
  · simp [h, Nat.add_assoc]
  · simp [h, Nat.add_assoc]

/-- Counting each character as it is passed gives the same as counting those in front. -/
theorem afterAll_start (front : List Char) : start.afterAll front = behind front := by
  induction front using List.reverseRecOn with
  | nil => rfl
  | append_singleton front c ih => rw [afterAll_append, ih, behind_concat]; rfl

theorem afterAll_behind (front more : List Char) :
    (behind front).afterAll more = behind (front ++ more) := by
  rw [← afterAll_start, ← afterAll_start, afterAll_append]

variable {text : List Char} {i j : Nat}

theorem ofIndex_add (text : List Char) (i n : Nat) :
    (ofIndex text i).afterAll ((text.drop i).take n) = ofIndex text (i + n) := by
  unfold ofIndex
  rw [afterAll_behind, List.take_add]

theorem ofIndex_lt (hij : i < j) (hj : j ≤ text.length) : ofIndex text i < ofIndex text j := by
  obtain ⟨n, rfl⟩ := Nat.exists_eq_add_of_lt hij
  rw [Nat.add_assoc, ← ofIndex_add]
  refine lt_afterAll (fun hnil => ?_) _
  have hlength := congrArg List.length hnil
  rw [List.length_take, List.length_drop, List.length_nil] at hlength
  omega

theorem ofIndex_atMost (hij : i ≤ j) (hj : j ≤ text.length) :
    (ofIndex text i).atMost (ofIndex text j) := by
  obtain hlt | rfl := Nat.lt_or_eq_of_le hij
  · exact atMost_of_lt (ofIndex_lt hlt hj)
  · exact atMost_refl _

theorem line_ofIndex_pos (text : List Char) (i : Nat) : 1 ≤ (ofIndex text i).line :=
  Nat.le_add_right 1 _

theorem column_ofIndex_pos (text : List Char) (i : Nat) : 1 ≤ (ofIndex text i).column :=
  Nat.le_add_right 1 _

end Pos

/-! ## Cutting a text -/

section Cut

variable (text : List Char)

/-- The index of the first character from `i` on that is neither blank nor in a comment. -/
def tokenStart (i : Nat) : Nat := i + triviaLength false (text.drop i)

/-- With the character at `i` begins a token that reaches up to `j`. -/
def TokenAt (i : Nat) (lex : Lexeme) (j : Nat) : Prop :=
  ∃ c rest used, text.drop i = c :: rest ∧ lexeme c rest = .ok (lex, used) ∧ j = i + 1 + used

/-- With the character at `i` begins what is no token. -/
def FaultAt (i : Nat) (fault : Fault) : Prop :=
  ∃ c rest, text.drop i = c :: rest ∧ lexeme c rest = .error fault

/-- From `i` up to `k` a text is tokens, with blanks and comments in front of them. Beside each token
stands the index of its first character. -/
inductive Cut : Nat → List (Nat × Lexeme) → Nat → Prop
  | nil (i : Nat) : Cut i [] i
  | cons {i j k : Nat} {lex : Lexeme} {cut : List (Nat × Lexeme)}
      (first : TokenAt text (tokenStart text i) lex j) (rest : Cut j cut k) :
      Cut i ((tokenStart text i, lex) :: cut) k

/-- All of a text is tokens, with blanks and comments between them. -/
def CutWhole (cut : List (Nat × Lexeme)) : Prop :=
  ∃ k, Cut text 0 cut k ∧ tokenStart text k = text.length

end Cut

variable {text : List Char} {i j k : Nat} {lex : Lexeme} {cut : List (Nat × Lexeme)}

theorem le_tokenStart (text : List Char) (i : Nat) : i ≤ tokenStart text i := Nat.le_add_right ..

theorem tokenStart_le (h : i ≤ text.length) : tokenStart text i ≤ text.length := by
  have hle := triviaLength_le false (text.drop i)
  rw [List.length_drop] at hle
  unfold tokenStart
  omega

theorem TokenAt.lt (h : TokenAt text i lex j) : i < j := by
  obtain ⟨c, rest, used, -, -, rfl⟩ := h
  omega

/-- A token lies inside the text. -/
theorem TokenAt.le_length (h : TokenAt text i lex j) : j ≤ text.length := by
  obtain ⟨c, rest, used, hdrop, hlex, rfl⟩ := h
  have hused := (lexeme_newline hlex []).1
  have hlength := congrArg List.length hdrop
  rw [List.length_drop, List.length_cons] at hlength
  omega

namespace Cut

theorem le_of_mem (h : Cut text i cut k) {m : Nat × Lexeme} (hm : m ∈ cut) : i ≤ m.1 := by
  induction h with
  | nil => cases hm
  | @cons i j k lex cut first rest ih =>
    obtain rfl | hm := List.mem_cons.1 hm
    · exact le_tokenStart text i
    · exact Nat.le_trans (Nat.le_trans (le_tokenStart text i) (Nat.le_of_lt first.lt)) (ih hm)

/-- Tokens begin one behind the other, inside the text. -/
theorem pairwise (h : Cut text i cut k) :
    (cut.map Prod.fst ++ [text.length]).Pairwise fun m n => m < n ∧ n ≤ text.length := by
  induction h with
  | nil => exact List.pairwise_singleton _ _
  | @cons i j k lex cut first rest ih =>
    refine List.pairwise_cons.2 ⟨fun n hn => ?_, ih⟩
    obtain hn | hn := List.mem_append.1 hn
    · obtain ⟨m, hm, rfl⟩ := List.mem_map.1 hn
      refine ⟨Nat.lt_of_lt_of_le first.lt (rest.le_of_mem hm), ?_⟩
      exact Nat.le_of_lt ((List.pairwise_append.1 ih).2.2 _ hn _ (.head _)).1
    · obtain rfl := List.mem_singleton.1 hn
      exact ⟨Nat.lt_of_lt_of_le first.lt first.le_length, Nat.le_refl _⟩

theorem end_le (h : Cut text i cut k) (hi : i ≤ text.length) : k ≤ text.length := by
  induction h with
  | nil => exact hi
  | cons first rest ih => exact ih first.le_length

end Cut

/-! ## What the scanner gives -/

/-- A token at the position of its first character. -/
def placed (text : List Char) (m : Nat × Lexeme) : Token := ⟨m.2, .ofIndex text m.1⟩

/-- Scanning cuts a text up to its end, or up to the first character that begins no token. -/
theorem scanFrom_ofIndex (text : List Char) (i : Nat) (hi : i ≤ text.length) :
    ∃ cut k, Cut text i cut k ∧
      match scanFrom (.ofIndex text i) (text.drop i) with
      | .ok input => tokenStart text k = text.length ∧
          input = ⟨cut.map (placed text), .ofIndex text text.length⟩
      | .error e => FaultAt text (tokenStart text k) e.fault ∧
          e.pos = .ofIndex text (tokenStart text k) := by
  induction hn : text.length - i using Nat.strongRecOn generalizing i with
  | ind n ih =>
    have hdrop : (text.drop i).drop (triviaLength false (text.drop i)) =
        text.drop (tokenStart text i) := List.drop_drop
    rw [scanFrom_eq, hdrop, Pos.ofIndex_add]
    show ∃ cut k, Cut text i cut k ∧ match scanToken (.ofIndex text (tokenStart text i)) _ with
      | .ok input => _
      | .error e => _
    cases hrest : text.drop (tokenStart text i) with
    | nil =>
      have hend : tokenStart text i = text.length :=
        Nat.le_antisymm (tokenStart_le hi) (List.drop_eq_nil_iff.1 hrest)
      refine ⟨[], i, .nil i, hend, ?_⟩
      rw [hend]
      rfl
    | cons c rest =>
      cases hlex : lexeme c rest with
      | error fault =>
        rw [scanToken, hlex]
        exact ⟨[], i, .nil i, ⟨c, rest, hrest, hlex⟩, rfl⟩
      | ok r =>
        obtain ⟨lex, used⟩ := r
        have htoken : TokenAt text (tokenStart text i) lex (tokenStart text i + 1 + used) :=
          ⟨c, rest, used, hrest, hlex, rfl⟩
        have hbehind : rest.drop used = text.drop (tokenStart text i + 1 + used) := by
          rw [Nat.add_assoc, ← List.drop_drop, hrest, Nat.add_comm 1, List.drop_succ_cons]
        have hpos : ((Pos.ofIndex text (tokenStart text i)).after c).afterAll (rest.take used) =
            .ofIndex text (tokenStart text i + 1 + used) := by
          rw [Nat.add_assoc, ← Pos.ofIndex_add, hrest, Nat.add_comm 1, List.take_succ_cons]
          rfl
        have hshorter : text.length - (tokenStart text i + 1 + used) < n := by
          have hle := htoken.le_length
          have hstart := le_tokenStart text i
          omega
        obtain ⟨cut, k, hcut, hmore⟩ := ih _ hshorter _ htoken.le_length rfl
        refine ⟨(tokenStart text i, lex) :: cut, k, .cons htoken hcut, ?_⟩
        rw [scanToken, hlex]
        dsimp only
        rw [hpos, hbehind]
        cases hscan : scanFrom (.ofIndex text (tokenStart text i + 1 + used))
            (text.drop (tokenStart text i + 1 + used)) with
        | error e =>
          rw [hscan] at hmore
          exact hmore
        | ok input =>
          rw [hscan] at hmore
          obtain ⟨hend, rfl⟩ := hmore
          exact ⟨hend, rfl⟩

theorem scan_eq_ok {text : String} {input : TokenList} (h : scan text = .ok input) :
    ∃ cut, CutWhole text.toList cut ∧
      input = ⟨cut.map (placed text.toList), .ofIndex text.toList text.toList.length⟩ := by
  obtain ⟨cut, k, hcut, hscan⟩ := scanFrom_ofIndex text.toList 0 (Nat.zero_le _)
  have hrun : scanFrom (.ofIndex text.toList 0) (text.toList.drop 0) = .ok input := h
  rw [hrun] at hscan
  exact ⟨cut, ⟨k, hcut, hscan.1⟩, hscan.2⟩

theorem scan_eq_error {text : String} {e : ParseError} (h : scan text = .error e) :
    ∃ cut k, Cut text.toList 0 cut k ∧ FaultAt text.toList (tokenStart text.toList k) e.fault ∧
      e.pos = .ofIndex text.toList (tokenStart text.toList k) := by
  obtain ⟨cut, k, hcut, hscan⟩ := scanFrom_ofIndex text.toList 0 (Nat.zero_le _)
  have hrun : scanFrom (.ofIndex text.toList 0) (text.toList.drop 0) = .error e := h
  rw [hrun] at hscan
  exact ⟨cut, k, hcut, hscan⟩

/-- The tokens of a text with their positions, and the end of the text as the last of them. -/
def TokenList.entries (input : TokenList) : List (Option Lexeme × Pos) :=
  input.tokens.map (fun t => (some t.lexeme, t.pos)) ++ [(none, input.finish)]

/-- Behind a text and a line break another text has the tokens that it has by itself, as many lines
further down as there are line breaks in front of it, and if it has an error, the same one. -/
theorem scan_below {s : String} {input : TokenList} (hs : scan s = .ok input) (t : String) :
    let down (pos : Pos) : Pos := ⟨pos.line + (s.toList.count '\n' + 1), pos.column⟩
    (∀ more, scan t = .ok more → ∃ joined, scan (s ++ "\n" ++ t) = .ok joined ∧
      joined.entries = input.entries.dropLast ++ more.entries.map (Prod.map id down)) ∧
    ∀ e, scan t = .error e → scan (s ++ "\n" ++ t) = .error ⟨e.fault, down e.pos⟩ := by
  intro down
  have hjoin := scan_newline hs t
  constructor
  · intro more hmore
    rw [hmore] at hjoin
    refine ⟨_, hjoin, ?_⟩
    simp only [TokenList.entries, TokenList.moved, List.dropLast_concat, List.map_append,
      List.map_map, List.append_assoc]
    rfl
  · intro e he
    rw [he] at hjoin
    exact hjoin

/-- An operator above what it could have gone on with, and a comment above an error. -/
theorem scan_below_open :
    (∃ input, scan "a /\n<" = .ok input ∧ ∃ more, scan "= 1 # end" = .ok more ∧
      ∃ joined, scan "a /\n<\n= 1 # end" = .ok joined ∧
        joined.entries = input.entries.dropLast ++
          more.entries.map (Prod.map id fun pos => ⟨pos.line + 2, pos.column⟩)) ∧
    ∃ input, scan "a # \"" = .ok input ∧ ∃ fault, scan " \"b" = .error ⟨fault, ⟨1, 2⟩⟩ ∧
      scan "a # \"\n \"b" = .error ⟨fault, ⟨2, 2⟩⟩ := by
  have hfirst : scan "a /\n<" = .ok ⟨[⟨.word "a", ⟨1, 1⟩⟩, ⟨.symbol .slash, ⟨1, 3⟩⟩,
      ⟨.symbol .lt, ⟨2, 1⟩⟩], ⟨2, 2⟩⟩ := by decide +kernel
  have hsecond : scan "= 1 # end" =
      .ok ⟨[⟨.symbol .assign, ⟨1, 1⟩⟩, ⟨.int 1, ⟨1, 3⟩⟩], ⟨1, 10⟩⟩ := by decide +kernel
  have hcomment : scan "a # \"" = .ok ⟨[⟨.word "a", ⟨1, 1⟩⟩], ⟨1, 6⟩⟩ := by decide +kernel
  have hfault : scan " \"b" = .error ⟨.unterminatedString, ⟨1, 2⟩⟩ := by decide +kernel
  exact ⟨⟨_, hfirst, _, hsecond, (scan_below hfirst _).1 _ hsecond⟩,
    _, hcomment, _, hfault, (scan_below hcomment _).2 _ hfault⟩

end Skirmish.Script
