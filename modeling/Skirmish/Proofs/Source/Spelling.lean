import Skirmish.Proofs.Grammar.Document
import Skirmish.Proofs.Source.Position

/-!
# Writing tokens

A word is written as it is, a number in decimal with underscores among its digits, a string in
quotes with four characters escaped, and a symbol by its one or two characters (`Spells`). Tokens
written with one space between them are read back (`scan_spelled`): a space ends whatever a token
may end with, and no spelling begins with a blank or a comment. So a script that is written out is
read back (`parseScript_spelled`).
-/

namespace Skirmish

namespace Text

/-- What holds of the characters with some codes holds of a character with one of them. -/
theorem of_toNat_mem {p : Char → Prop} (codes : List Nat) (h : ∀ n ∈ codes, p (Char.ofNat n))
    {c : Char} (hc : c.toNat ∈ codes) : p c := by
  rw [← Char.ofNat_toNat c]
  exact h _ hc

/-- No blank is a letter. -/
theorem isLetter_of_isBlank {c : Char} (h : isBlank c = true) : isLetter c = false := by
  refine of_toNat_mem (p := (isLetter · = false)) [0x09, 0x0A, 0x0B, 0x0C, 0x0D, 0x20, 0x85, 0xA0,
    0x1680, 0x2000, 0x2001, 0x2002, 0x2003, 0x2004, 0x2005, 0x2006, 0x2007, 0x2008, 0x2009, 0x200A,
    0x2028, 0x2029, 0x202F, 0x205F, 0x3000] (by decide +kernel) ?_
  simp only [isBlank, Bool.or_eq_true, Bool.and_eq_true, decide_eq_true_eq, beq_iff_eq] at h
  simp only [List.mem_cons, List.not_mem_nil, or_false]
  omega

theorem toNat_mem_of_isDigit {c : Char} (h : c.isDigit = true) : c.toNat ∈ List.range' 48 10 := by
  simp only [Char.isDigit, Bool.and_eq_true, decide_eq_true_eq, UInt32.le_iff_toNat_le] at h
  rw [List.mem_range'_1]
  exact ⟨h.1, Nat.lt_succ_of_le h.2⟩

theorem isLetter_of_isDigit {c : Char} (h : c.isDigit = true) : isLetter c = false :=
  of_toNat_mem (p := (isLetter · = false)) (List.range' 48 10) (by decide) (toNat_mem_of_isDigit h)

end Text

namespace Number

theorem isDigit_of_mem_toDigits {n : Nat} {c : Char} (h : c ∈ Nat.toDigits 10 n) :
    c.isDigit = true :=
  Nat.isDigit_of_mem_toDigits (by decide) (by decide) h

/-- The digits of a number that is not too large for a word read as that word. -/
theorem readWord?_toDigits {n : Nat} (h : n ≤ Int64.maxValue.toInt) :
    readWord? (Nat.toDigits 10 n) = some (Int64.ofNat n) := by
  have hsign : sign (Nat.toDigits 10 n) = (false, Nat.toDigits 10 n) := by
    unfold sign
    split
    · next cs heq =>
      have hminus : '-' ∈ Nat.toDigits 10 n := heq ▸ List.mem_cons_self
      exact absurd (isDigit_of_mem_toDigits hminus) (by decide)
    · next cs heq =>
      have hplus : '+' ∈ Nat.toDigits 10 n := heq ▸ List.mem_cons_self
      exact absurd (isDigit_of_mem_toDigits hplus) (by decide)
    · rfl
  have hvalue : ofDigits (Nat.toDigits 10 n) = n := Nat.ofDigitChars_ten_toDigits
  have hint : int? (Nat.toDigits 10 n) = some (n : Int) := by
    simp only [int?, hsign]
    rw [if_pos ⟨Nat.toDigits_ne_nil, List.all_eq_true.2 fun _ => isDigit_of_mem_toDigits⟩, hvalue]
    rfl
  have hmin : Int64.minValue.toInt ≤ n := Int.le_trans (by decide) (Int.natCast_nonneg n)
  rw [readWord?, hint, Option.bind_some, word?, if_pos ⟨hmin, h⟩]
  rfl

end Number

namespace Script

/-! ## Spellings -/

/-- How a character of a string is written. -/
def escapeChar (c : Char) : List Char :=
  match c with
  | '"' => ['\\', '"']
  | '\\' => ['\\', '\\']
  | '\n' => ['\\', 'n']
  | '\t' => ['\\', 't']
  | c => [c]

/-- Characters that without their underscores are given digits, and do not begin with one. -/
def Underscored (ds cs : List Char) : Prop := cs.filter (· != '_') = ds ∧ cs.head? ≠ some '_'

instance (ds cs : List Char) : Decidable (Underscored ds cs) := inferInstanceAs (Decidable (_ ∧ _))

/-- How a token may be written. Numbers carry no sign. -/
inductive Spells : Lexeme → List Char → Prop
  | word {c : Char} {more : List Char} (hfirst : Text.isLetter c = true ∨ c = '_')
      (hmore : ∀ d ∈ more, Text.isLetter d = true ∨ Text.isNumeral d = true ∨ d = '_') :
      Spells (.word (String.ofList (c :: more))) (c :: more)
  | int {n : Nat} {cs : List Char} (hn : n ≤ Int64.maxValue.toInt)
      (h : Underscored (Nat.toDigits 10 n) cs) : Spells (.int (.ofNat n)) cs
  | text (s : String) : Spells (.text s) ('"' :: (s.toList.flatMap escapeChar ++ ['"']))
  | symbol (s : Symbol) : Spells (.symbol s) s.spelling.toList

/-- What stands behind a token: nothing, or a space and more. -/
inductive Apart : List Char → Prop
  | nil : Apart []
  | space (more : List Char) : Apart (' ' :: more)

variable {rest cs : List Char} {lex : Lexeme}

/-- Characters that are read as a token wherever they stand apart. -/
def Legible (lex : Lexeme) (cs : List Char) : Prop :=
  ∃ c more, cs = c :: more ∧ ∀ rest, Apart rest →
    triviaLength false (c :: (more ++ rest)) = 0 ∧ lexeme c (more ++ rest) = .ok (lex, more.length)

theorem triviaLength_cons_eq_zero {c : Char} (hblank : Text.isBlank c = false) (hhash : c ≠ '#')
    (hslash : c ≠ '/') (cs : List Char) : triviaLength false (c :: cs) = 0 := by
  have hcomment : ¬ (c = '#' ∨ (c = '/' ∧ cs.head? = some '/')) := by
    rintro (h | ⟨h, -⟩)
    · exact hhash h
    · exact hslash h
  rw [triviaLength, if_neg (by decide), if_neg (by rw [hblank]; decide), if_neg hcomment]

/-! ## Words -/

/-- What begins a word begins neither a blank, nor a comment, nor a token of another kind. -/
theorem plain_of_isLetter {c : Char} (h : Text.isLetter c = true ∨ c = '_') :
    c ≠ '"' ∧ c.isDigit = false ∧ Text.isBlank c = false ∧ c ≠ '#' ∧ c ≠ '/' := by
  obtain hletter | rfl := h
  · refine ⟨?_, ?_, ?_, ?_, ?_⟩
    · rintro rfl
      exact absurd hletter (by decide)
    · rw [Bool.eq_false_iff]
      exact fun hdigit => by simp [Text.isLetter_of_isDigit hdigit] at hletter
    · rw [Bool.eq_false_iff]
      exact fun hblank => by simp [Text.isLetter_of_isBlank hblank] at hletter
    · rintro rfl
      exact absurd hletter (by decide)
    · rintro rfl
      exact absurd hletter (by decide)
  · decide

theorem takeWhile_apart (h : ∀ d ∈ cs, continuesWord d = true) (hrest : Apart rest) :
    (cs ++ rest).takeWhile continuesWord = cs := by
  rw [List.takeWhile_append_of_pos h]
  cases hrest with
  | nil => exact List.append_nil cs
  | space => rw [List.takeWhile_cons_of_neg (by decide), List.append_nil]

theorem legible_word {c : Char} {more : List Char} (hfirst : Text.isLetter c = true ∨ c = '_')
    (hmore : ∀ d ∈ more, Text.isLetter d = true ∨ Text.isNumeral d = true ∨ d = '_') :
    Legible (.word (String.ofList (c :: more))) (c :: more) := by
  obtain ⟨hquote, hdigit, hblank, hhash, hslash⟩ := plain_of_isLetter hfirst
  refine ⟨c, more, rfl, fun rest hrest => ⟨triviaLength_cons_eq_zero hblank hhash hslash _, ?_⟩⟩
  have hbegins : beginsWord c = true := by simpa [beginsWord] using hfirst
  have hcontinues : ∀ d ∈ more, continuesWord d = true := fun d hd => by
    simpa [continuesWord, or_assoc] using hmore d hd
  rw [lexeme, if_neg hquote, if_neg (by rw [hdigit]; decide), if_pos hbegins,
    takeWhile_apart hcontinues hrest]
  rfl

/-! ## Numbers -/

theorem plain_of_isDigit {c : Char} (h : c.isDigit = true) :
    c ≠ '"' ∧ Text.isBlank c = false ∧ c ≠ '#' ∧ c ≠ '/' :=
  Text.of_toNat_mem (p := fun c => c ≠ '"' ∧ Text.isBlank c = false ∧ c ≠ '#' ∧ c ≠ '/')
    (List.range' 48 10) (by decide) (Text.toNat_mem_of_isDigit h)

/-- Digits are taken and underscores passed over, up to a space. -/
theorem numberBody_apart (h : ∀ c ∈ cs, c.isDigit = true ∨ c = '_') (hrest : Apart rest) :
    numberBody false (cs ++ rest) = (cs.filter (· != '_'), cs.length) := by
  induction cs with
  | nil => cases hrest <;> rfl
  | cons c cs ih =>
    have ih := ih fun d hd => h d (List.mem_cons_of_mem c hd)
    rw [List.cons_append, numberBody, ih]
    obtain hdigit | rfl := h c List.mem_cons_self
    · have hkept : (c != '_') = true := by
        rw [bne_iff_ne]
        rintro rfl
        exact absurd hdigit (by decide)
      rw [if_pos hdigit, List.filter_cons, if_pos hkept]
      rfl
    · rw [if_neg (by decide), if_pos rfl, List.filter_cons_of_neg (by decide)]
      rfl

theorem number_apart {n : Nat} (hn : n ≤ Int64.maxValue.toInt)
    (h : Underscored (Nat.toDigits 10 n) cs) (hrest : Apart rest) :
    number (cs ++ rest) = .ok (.int (.ofNat n), cs.length) := by
  have hbody : numberBody false (cs ++ rest) = (Nat.toDigits 10 n, cs.length) := by
    rw [numberBody_apart _ hrest, h.1]
    intro c hc
    by_cases hunderscore : c = '_'
    · exact .inr hunderscore
    · have hkept : c ∈ cs.filter (· != '_') := List.mem_filter.2 ⟨hc, bne_iff_ne.2 hunderscore⟩
      exact .inl (Number.isDigit_of_mem_toDigits (h.1 ▸ hkept))
  have hletter : rest.head?.filter Text.isLetter = none := by
    cases hrest <;> rfl
  have hpoint : (Nat.toDigits 10 n).contains '.' = false := by
    rw [Bool.eq_false_iff]
    intro hmem
    exact absurd (Number.isDigit_of_mem_toDigits (List.contains_iff_mem.1 hmem)) (by decide)
  simp only [number, hbody, List.drop_left, hletter, numberValue?, hpoint,
    Number.readWord?_toDigits hn]
  rfl

theorem legible_int {n : Nat} (hn : n ≤ Int64.maxValue.toInt)
    (h : Underscored (Nat.toDigits 10 n) cs) : Legible (.int (.ofNat n)) cs := by
  cases cs with
  | nil => exact absurd h.1.symm Nat.toDigits_ne_nil
  | cons c more =>
    have hc : c ∈ Nat.toDigits 10 n := by
      rw [← h.1]
      exact List.mem_filter.2 ⟨List.mem_cons_self, bne_iff_ne.2 fun heq => h.2 (congrArg some heq)⟩
    have hdigit : c.isDigit = true := Number.isDigit_of_mem_toDigits hc
    obtain ⟨hquote, hblank, hhash, hslash⟩ := plain_of_isDigit hdigit
    refine ⟨c, more, rfl, fun rest hrest => ⟨triviaLength_cons_eq_zero hblank hhash hslash _, ?_⟩⟩
    rw [lexeme, if_neg hquote, if_pos hdigit, ← List.cons_append, number_apart hn h hrest]
    rfl

/-! ## Strings -/

theorem stringBody_escapeChar (c : Char) (cs : List Char) :
    stringBody (escapeChar c ++ cs) =
      (stringBody cs).map fun (text, used) => (c :: text, used + (escapeChar c).length) := by
  unfold escapeChar
  split
  case h_5 hquote hslash hbreak htab =>
    rw [List.singleton_append, stringBody]
    · rfl
    · exact hbreak
    · exact fun h _ => hslash h
    · exact hquote
    · exact fun _ _ h _ => hslash h
  all_goals rfl

theorem stringBody_escaped (s rest : List Char) :
    stringBody (s.flatMap escapeChar ++ '"' :: rest) =
      some (s, (s.flatMap escapeChar).length + 1) := by
  induction s with
  | nil => rfl
  | cons c s ih =>
    rw [List.flatMap_cons, List.append_assoc, stringBody_escapeChar, ih, List.length_append,
      Nat.add_assoc, Nat.add_comm (escapeChar c).length]
    rfl

theorem legible_text (s : String) :
    Legible (.text s) ('"' :: (s.toList.flatMap escapeChar ++ ['"'])) := by
  refine ⟨'"', _, rfl, fun rest _ =>
    ⟨triviaLength_cons_eq_zero (by decide) (by decide) (by decide) _, ?_⟩⟩
  rw [lexeme, if_pos rfl, List.append_assoc, List.singleton_append, stringBody_escaped,
    List.length_append]
  simp [pure, Except.pure]

/-! ## Symbols -/

/-- Apart from what follows no symbol is the beginning of a longer one or of a comment. -/
theorem legible_symbol (s : Symbol) : Legible (.symbol s) s.spelling.toList := by
  -- Which symbol is read depends on one character more, and that is a space or missing.
  cases s <;> exact ⟨_, _, rfl, fun rest hrest => by cases hrest <;> exact ⟨rfl, rfl⟩⟩

theorem Spells.legible (h : Spells lex cs) : Legible lex cs := by
  cases h with
  | word hfirst hmore => exact legible_word hfirst hmore
  | int hn h => exact legible_int hn h
  | text s => exact legible_text s
  | symbol s => exact legible_symbol s

/-! ## Reading tokens back -/

theorem scanFrom_legible (h : Legible lex cs) (hrest : Apart rest) (pos : Pos) :
    scanFrom pos (cs ++ rest) = (scanFrom (pos.afterAll cs) rest).map fun more =>
      { more with tokens := ⟨lex, pos⟩ :: more.tokens } := by
  obtain ⟨c, more, rfl, hread⟩ := h
  obtain ⟨htrivia, hlex⟩ := hread rest hrest
  have hpos : pos.afterAll [] = pos := rfl
  rw [scanFrom_eq, List.cons_append, htrivia, List.take_zero, List.drop_zero, hpos, scanToken, hlex]
  dsimp only
  rw [List.take_left, List.drop_left, Pos.afterAll_cons]
  cases scanFrom ((pos.after c).afterAll more) rest <;> rfl

theorem scanFrom_space (pos : Pos) (cs : List Char) :
    scanFrom pos (' ' :: cs) = scanFrom (pos.after ' ') cs := by
  have htrivia : triviaLength false (' ' :: cs) = triviaLength false cs + 1 := by
    rw [triviaLength, if_neg (by decide), if_pos (by decide)]
  rw [scanFrom_eq, scanFrom_eq, htrivia]
  rfl

theorem scanFrom_intercalate {ls : List Lexeme} {texts : List (List Char)}
    (h : List.Forall₂ Spells ls texts) (pos : Pos) :
    ∃ input, scanFrom pos ([' '].intercalate texts) = .ok input ∧
      input.tokens.map Token.lexeme = ls := by
  induction h generalizing pos with
  | nil => exact ⟨⟨[], pos⟩, by rw [scanFrom_eq]; rfl, rfl⟩
  | @cons lex cs ls texts hfirst hmore ih =>
    -- Only a token that is not the last one has a space behind it.
    cases hmore with
    | nil =>
      have hscan := scanFrom_legible hfirst.legible .nil pos
      rw [List.append_nil, scanFrom_eq (pos.afterAll cs)] at hscan
      rw [List.intercalate_singleton]
      exact ⟨_, hscan, rfl⟩
    | cons hsecond hlater =>
      obtain ⟨input, hinput, hlexemes⟩ := ih ((pos.afterAll cs).after ' ')
      rw [List.intercalate_cons_cons, List.append_assoc, List.singleton_append,
        scanFrom_legible hfirst.legible (.space _), scanFrom_space, hinput]
      refine ⟨_, rfl, ?_⟩
      rw [List.map_cons, hlexemes]

theorem scan_intercalate {ls : List Lexeme} {texts : List String}
    (h : List.Forall₂ Spells ls (texts.map String.toList)) :
    ∃ input, scan (" ".intercalate texts) = .ok input ∧ input.tokens.map Token.lexeme = ls := by
  rw [scan, String.toList_intercalate]
  exact scanFrom_intercalate h .start

/-- Tokens that are written with one space between them are read back, and nothing else is read. -/
theorem scan_spelled {ls : List Lexeme} {texts : List String}
    (h : List.Forall₂ Spells ls (texts.map String.toList)) :
    ∃ input, scan (" ".intercalate texts) = .ok input ∧
      input.entries.map Prod.fst = ls.map some ++ [none] := by
  obtain ⟨input, hscan, hlexemes⟩ := scan_intercalate h
  refine ⟨input, hscan, ?_⟩
  rw [TokenList.entries, List.map_append, List.map_map, ← hlexemes, List.map_map]
  rfl

/-- A word that is no ASCII word, the largest number, a string with every escape, two divisions that
are no comment, and two symbols that are also one. -/
theorem scan_spelled_apart :
    let ls := [.word "état_9", .int Int64.maxValue, .text "\"\\\n\t\r", .symbol .slash,
      .symbol .slash, .symbol .lt, .symbol .assign]
    let texts := ["état_9", "9_223_372_036_854_775__807", "\"\\\"\\\\\\n\\t\r\"", "/", "/", "<",
      "="]
    List.Forall₂ Spells ls (texts.map String.toList) ∧
      ∃ input, scan (" ".intercalate texts) = .ok input ∧
        input.entries.map Prod.fst = ls.map some ++ [none] := by
  intro ls texts
  have hword : Spells (.word "état_9") ['é', 't', 'a', 't', '_', '9'] := by
    refine .word (by decide +kernel) ?_
    simp only [List.forall_mem_cons, List.not_mem_nil, false_implies, implies_true, and_true]
    decide
  have hint : Spells (.int Int64.maxValue) "9_223_372_036_854_775__807".toList :=
    .int (n := 9223372036854775807) (by decide) (by decide +kernel)
  have hspells : List.Forall₂ Spells ls (texts.map String.toList) :=
    .cons hword <| .cons hint <| .cons (.text _) <| .cons (.symbol .slash) <|
      .cons (.symbol .slash) <| .cons (.symbol .lt) <| .cons (.symbol .assign) .nil
  exact ⟨hspells, scan_spelled hspells⟩

/-- A script that is written out is read back, up to positions. -/
theorem parseScript_spelled {style : Style} {s : Script} (hwritable : s.isWritable)
    (hnesting : style.nesting s ≤ maxNesting) {texts : List String}
    (h : List.Forall₂ Spells (style.script s) (texts.map String.toList)) :
    ∃ s', parseScript (" ".intercalate texts) = .ok s' ∧ s'.unplaced = s.unplaced := by
  obtain ⟨input, hscan, hlexemes⟩ := scan_intercalate h
  obtain ⟨s', hrun, hs'⟩ :=
    reads_script hwritable hnesting input.tokens [] input.finish hlexemes rfl
  rw [List.append_nil] at hrun
  refine ⟨s', ?_, hs'⟩
  show (scan (" ".intercalate texts)).bind _ = _
  rw [hscan]
  show (Script.script false input).bind _ = _
  rw [hrun]
  rfl

end Script

end Skirmish
