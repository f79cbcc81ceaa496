import Mathlib.Data.List.Forall2
import Mathlib.Data.List.Infix
import Mathlib.Data.Option.Basic
import Skirmish.Proofs.Joining.Moved
import Skirmish.Proofs.Grammar.Reading

/-!
# Reading the same tokens elsewhere

What a parser makes of tokens, it makes of them wherever they stand and whatever comes behind them,
and a token that it does not expect it does not accept in another text (`TracksAt`). The rules below
follow the ways in which parsers are put together.

A parenthesis behind a word like `if` is read twice, as a condition and as an expression, and an
error inside it is the one of the second reading only. So errors say nothing while such a
parenthesis is open (`inTest`).
-/

namespace Skirmish.Script

/-! ## Parentheses -/

/-- How many parentheses are open behind a lexeme if `d` are in front of it; none if it closes one
that is not open. -/
def depthBehind? (d : Nat) : Lexeme → Option Nat
  | .symbol .lparen => some (d + 1)
  | .symbol .rparen => if d = 0 then none else some (d - 1)
  | _ => some d

def depth? (d : Nat) (ls : List Lexeme) : Option Nat := ls.foldlM depthBehind? d

theorem depth?_append (d : Nat) (ls ms : List Lexeme) :
    depth? d (ls ++ ms) = (depth? d ls).bind (depth? · ms) := List.foldlM_append

theorem depth?_cons (d : Nat) (l : Lexeme) (ls : List Lexeme) :
    depth? d (l :: ls) = (depthBehind? d l).bind (depth? · ls) := rfl

theorem depthBehind?_add {d m : Nat} {l : Lexeme} (h : depthBehind? d l = some m) (n : Nat) :
    depthBehind? (d + n) l = some (m + n) := by
  unfold depthBehind? at h ⊢
  grind

theorem depth?_add {d m : Nat} {ls : List Lexeme} (h : depth? d ls = some m) (n : Nat) :
    depth? (d + n) ls = some (m + n) := by
  induction ls generalizing d with
  | nil =>
    cases h
    rfl
  | cons l ls ih =>
    obtain ⟨k, hk, h⟩ := Option.bind_eq_some_iff.1 h
    rw [depth?_cons, depthBehind?_add hk, Option.bind_some, ih h]

/-- Lexemes that close what they open leave open what was. -/
theorem depth?_of_closed {ls : List Lexeme} (h : depth? 0 ls = some 0) (d : Nat) :
    depth? d ls = some d := by
  have hadd := depth?_add h d
  rwa [Nat.zero_add] at hadd

/-- Words behind which an operand of a condition stands. -/
def testWords : List String := ["if", "not", "and", "or"]

/-- Whether lexemes begin with a parenthesis behind one of these words, which is closed nowhere. -/
def opensTest : List Lexeme → Bool
  | .word w :: .symbol .lparen :: ls => testWords.contains w && (depth? 0 ls).isSome
  | _ => false

/-- Whether an operand of a condition, or what began as one, is left open in a parenthesis. -/
def inTest (ls : List Lexeme) : Bool := ls.tails.any opensTest

theorem inTest_append {ls : List Lexeme} (h : inTest ls) (front : List Lexeme) :
    inTest (front ++ ls) := by
  obtain ⟨tail, htail, hopens⟩ := List.any_eq_true.1 h
  rw [List.mem_tails] at htail
  refine List.any_eq_true.2 ⟨tail, ?_, hopens⟩
  rw [List.mem_tails]
  exact htail.trans (List.suffix_append front ls)

namespace Parser

variable {α β σ : Type} {f : Pos → Pos} {follow before : List Lexeme} {d : Nat}

/-! ## Tracking -/

section

variable (f : Pos → Pos) (follow : List Lexeme)

/-- What is left of two inputs begins with the same token. Where nothing is left of the first one,
one of the lexemes `follow` may be next in the second one. -/
inductive Meets : List Token → List Token → Prop
  | token (t : Token) (rest rest' : List Token) : Meets (t :: rest) (t.moved f :: rest')
  | nothing : Meets [] []
  | next {t : Token} (h : t.lexeme ∈ follow) (rest' : List Token) : Meets [] (t :: rest')

/-- On an input, `p'` does what `p` does, wherever the tokens stand: what `p` makes of the tokens
that it takes, `p'` makes of them in front of anything that may follow; and a token that `p` does not
expect, `p'` does not accept, whatever is behind it. `R` ties together what they give back. Of the
parentheses in front of the tokens, `d` are closed by those that are taken. -/
structure TracksAt (before : List Lexeme) (d : Nat) (R : α → α → Prop) (p p' : Parser α)
    (input : TokenList) : Prop where
  ok : ∀ {a left}, p input = .ok (a, left) →
    ∃ taken a', input = ⟨taken ++ left.tokens, left.finish⟩ ∧ R a a' ∧
      depth? d (taken.map Token.lexeme) = some 0 ∧
      ∀ rest' finish', Meets f follow left.tokens rest' →
        p' ⟨taken.map (Token.moved f) ++ rest', finish'⟩ = .ok (a', ⟨rest', finish'⟩)
  error : ∀ {what l pos}, p input = .error ⟨.unexpected what (some l), pos⟩ →
    ∃ passed t behind, input.tokens = passed ++ t :: behind ∧ t.lexeme = l ∧ t.pos = pos ∧
      (depth? d (passed.map Token.lexeme)).isSome ∧
      (inTest (before ++ passed.map Token.lexeme) = false → ∀ behind' finish',
        ∃ e, p' ⟨passed.map (Token.moved f) ++ t.moved f :: behind', finish'⟩ = .error e)

/-- On every input, `p'` does what `p` does. -/
def Tracks (before : List Lexeme) (d : Nat) (R : α → α → Prop) (p p' : Parser α) : Prop :=
  ∀ input, TracksAt f follow before d R p p' input

end

variable {p p' q r : Parser α} {k k' : α → Parser β} {R R' : α → α → Prop} {S : β → β → Prop}
  {t : Token} {tokens left taken : List Token} {finish : Pos} {input : TokenList}

theorem Meets.append {rest' : List Token} (h : Meets f follow left rest') (taken : List Token) :
    Meets f follow (taken ++ left) (taken.map (Token.moved f) ++ rest') := by
  cases taken with
  | nil => exact h
  | cons t taken => exact .token t _ _

theorem Meets.mono {follow' : List Lexeme} {rest' : List Token} (h : Meets f follow left rest')
    (hsub : ∀ l ∈ follow, l ∈ follow') : Meets f follow' left rest' := by
  cases h with
  | token t rest rest' => exact .token t rest rest'
  | nothing => exact .nothing
  | next h rest' => exact .next (hsub _ h) rest'

theorem bind_of_error {e : ParseError} (h : p input = .error e) : (p >>= k) input = .error e := by
  show (p input).bind _ = _
  rw [h]
  rfl

theorem bind_of_eq {input' : TokenList} (h : p input = q input') : (p >>= k) input = (q >>= k) input' := by
  show (p input).bind _ = (q input').bind _
  rw [h]

theorem map_of_ok {g : α → β} {a : α} {left : TokenList} (h : p input = .ok (a, left)) :
    (g <$> p) input = .ok (g a, left) := bind_of_ok (f := fun a => Pure.pure (g a)) h

theorem map_of_eq {g : α → β} {input' : TokenList} (h : p input = q input') :
    (g <$> p) input = (g <$> q) input' := bind_of_eq (k := fun a => Pure.pure (g a)) h

theorem map_of_error {g : α → β} {e : ParseError} (h : p input = .error e) :
    (g <$> p) input = .error e := bind_of_error (k := fun a => Pure.pure (g a)) h

theorem map_eq_ok {g : α → β} {b : β} {left : TokenList} (h : (g <$> p) input = .ok (b, left)) :
    ∃ a, p input = .ok (a, left) ∧ g a = b := by
  obtain ⟨a, mid, hrun, h⟩ := bind_eq_ok (f := fun a => Pure.pure (g a)).1 h
  cases h
  exact ⟨a, hrun, rfl⟩

/-! ## The next token -/

section Next

variable {γ : Type} {g : Lexeme → Option γ} {j : Option γ → Parser α} {l : Lexeme}

theorem bind_take?_some {c : γ} (h : g t.lexeme = some c) (finish : Pos) :
    (take? g >>= j) ⟨t :: tokens, finish⟩ = j (some c) ⟨tokens, finish⟩ := by
  have htake : take? g ⟨t :: tokens, finish⟩ = .ok (some c, ⟨tokens, finish⟩) := by
    rw [take?_apply]
    simp only [List.head?_cons, Option.map_some, Option.bind_some, h, List.tail_cons]
  exact bind_of_ok htake

theorem bind_take?_none (h : g t.lexeme = none) (finish : Pos) :
    (take? g >>= j) ⟨t :: tokens, finish⟩ = j none ⟨t :: tokens, finish⟩ := by
  have htake : take? g ⟨t :: tokens, finish⟩ = .ok (none, ⟨t :: tokens, finish⟩) := by
    rw [take?_apply]
    simp only [List.head?_cons, Option.map_some, Option.bind_some, h]
  exact bind_of_ok htake

theorem eat_bind (j : Bool → Parser α) :
    eat l >>= j =
      take? (fun m => if m = l then some () else none) >>= fun r => j r.isSome := by
  simp only [eat, bind_assoc, pure_bind]

theorem bind_eat_self {j : Bool → Parser α} (h : t.lexeme = l) :
    (eat l >>= j) ⟨t :: tokens, finish⟩ = j true ⟨tokens, finish⟩ := by
  rw [eat_bind]
  exact bind_take?_some (if_pos h) finish

theorem bind_eat_ne {j : Bool → Parser α} (h : t.lexeme ≠ l) :
    (eat l >>= j) ⟨t :: tokens, finish⟩ = j false ⟨t :: tokens, finish⟩ := by
  rw [eat_bind]
  exact bind_take?_none (if_neg h) finish

theorem bind_eat_none {j : Bool → Parser α} (h : input.tokens.head?.map Token.lexeme ≠ some l) :
    (eat l >>= j) input = j false input := by
  obtain ⟨_ | ⟨t, tokens⟩, finish⟩ := input
  · rfl
  · exact bind_eat_ne fun heq => h (congrArg some heq)

theorem expect_eq (l : Lexeme) (what : String) :
    expect l what = eat l >>= fun b => if !b then unexpected what else Pure.pure () := rfl

theorem bind_expect_self {what : String} {j : Unit → Parser α} (h : t.lexeme = l) :
    (expect l what >>= j) ⟨t :: tokens, finish⟩ = j () ⟨tokens, finish⟩ := by
  rw [expect_eq, bind_assoc, bind_eat_self h]
  rfl

theorem bind_expect_ne {what : String} {j : Unit → Parser α} (h : t.lexeme ≠ l) :
    (expect l what >>= j) ⟨t :: tokens, finish⟩ =
      .error ⟨.unexpected what (some t.lexeme), t.pos⟩ := by
  rw [expect_eq, bind_assoc, bind_eat_ne h]
  rfl

theorem expect_eq_ok {what : String} {u : Unit} {left : TokenList}
    (h : expect l what input = .ok (u, left)) :
    ∃ t, input = ⟨t :: left.tokens, left.finish⟩ ∧ t.lexeme = l := by
  rw [← bind_pure (expect l what)] at h
  obtain ⟨_ | ⟨t, tokens⟩, finish⟩ := input
  · cases h
  by_cases ht : t.lexeme = l
  · rw [bind_expect_self ht] at h
    cases h
    exact ⟨t, rfl, ht⟩
  · rw [bind_expect_ne ht] at h
    cases h

end Next

section Chain

variable {operator : Parser (Option (α → α → α))} {operand : Parser α} {left : TokenList} {a : α}

/-- Without an operator, the operands end. -/
theorem links_of_none (h : operator input = .ok (none, input)) (n : Nat) (a : α) :
    links operator operand n a input = .ok (a, input) := by
  rw [links.eq_def]
  show (operator >>= _ : Parser α) input = _
  rw [bind_of_ok h]
  rfl

theorem chain_of_none (hoperand : operand input = .ok (a, left))
    (hoperator : operator left = .ok (none, left)) : chain operator operand input = .ok (a, left) := by
  unfold chain
  rw [bind_of_ok hoperand, links_of_none hoperator]

end Chain

/-! ## Repetition

A repetition ends with a step that gives none, if every other step takes a token. -/

/-- A parser that gives something takes a token. -/
def Productive (p : Parser (Option α)) : Prop := Takes p fun taken r => r.isSome → taken ≠ []

theorem stepsWithin_eq {step : σ → Parser (Option σ)}
    (hstep : ∀ s, Productive (step s)) {m n : Nat} {s : σ}
    {input : TokenList} (hm : input.tokens.length < m) (hn : input.tokens.length < n) :
    stepsWithin step m s input = stepsWithin step n s input := by
  induction m generalizing n s input with
  | zero => exact absurd hm (Nat.not_lt_zero _)
  | succ m ih =>
    cases n with
    | zero => exact absurd hn (Nat.not_lt_zero _)
    | succ n =>
      rw [stepsWithin, stepsWithin]
      cases hrun : step s input with
      | error e => rw [bind_of_error hrun, bind_of_error hrun]
      | ok r =>
        obtain ⟨r, left⟩ := r
        rw [bind_of_ok hrun, bind_of_ok hrun]
        cases r with
        | none => rfl
        | some next =>
          obtain ⟨taken, htaken, -, hne⟩ := hstep s input _ _ hrun
          have hpos := List.length_pos_iff.2 (hne rfl)
          rw [htaken, List.length_append] at hm hn
          exact ih (by omega) (by omega)

/-- Steps are one step and then the others. -/
theorem steps_eq {step : σ → Parser (Option σ)}
    (hstep : ∀ s, Productive (step s)) (s : σ) :
    steps step s = step s >>= fun
      | none => Pure.pure s
      | some next => steps step next := by
  funext input
  show stepsWithin step (input.tokens.length + 1) s input = _
  rw [stepsWithin]
  cases hrun : step s input with
  | error e => rw [bind_of_error hrun, bind_of_error hrun]
  | ok r =>
    obtain ⟨r, left⟩ := r
    rw [bind_of_ok hrun, bind_of_ok hrun]
    cases r with
    | none => rfl
    | some next =>
      obtain ⟨taken, htaken, -, hne⟩ := hstep s input _ _ hrun
      have hpos := List.length_pos_iff.2 (hne rfl)
      refine stepsWithin_eq hstep ?_ (Nat.lt_succ_self _)
      rw [htaken, List.length_append]
      omega

/-- The last step gives none. -/
theorem steps_end {step : σ → Parser (Option σ)}
    (hstep : ∀ s, Productive (step s)) {s s' : σ}
    {input left : TokenList} (hrun : steps step s input = .ok (s', left)) :
    ∃ mid, step s' mid = .ok (none, left) := by
  induction hn : input.tokens.length using Nat.strongRecOn generalizing input s with
  | ind n ih =>
    rw [steps_eq hstep] at hrun
    obtain ⟨r, mid, hfirst, hrun⟩ := bind_eq_ok.1 hrun
    cases r with
    | none =>
      cases hrun
      exact ⟨input, hfirst⟩
    | some next =>
      obtain ⟨taken, htaken, -, hne⟩ := hstep s _ _ _ hfirst
      have hpos := List.length_pos_iff.2 (hne rfl)
      refine ih mid.tokens.length ?_ hrun rfl
      rw [← hn, htaken, List.length_append]
      omega

/-- Keeping the items that were read before changes nothing about what is taken. -/
theorem Productive.keep {item : Parser (Option α)} (h : Productive item) (items : List α) :
    Productive ((·.map (· :: items)) <$> item) := by
  refine Takes.map (h.mono fun taken r hne hsome => hne ?_)
  rwa [Option.isSome_map] at hsome

/-- The last item is none. -/
theorem many_end {item : Parser (Option α)} (hitem : Productive item) {items : List α}
    {left : TokenList} (hrun : many item input = .ok (items, left)) :
    ∃ mid, item mid = .ok (none, left) := by
  obtain ⟨items, hsteps, -⟩ := map_eq_ok hrun
  obtain ⟨mid, hend⟩ := steps_end hitem.keep hsteps
  obtain ⟨r, hlast, hr⟩ := map_eq_ok hend
  rw [Option.map_eq_none_iff.1 hr] at hlast
  exact ⟨mid, hlast⟩

namespace TracksAt

theorem mono {follow' : List Lexeme} (h : TracksAt f follow before d R p p' input)
    (hsub : ∀ l ∈ follow', l ∈ follow) (himp : ∀ a a', R a a' → R' a a') :
    TracksAt f follow' before d R' p p' input where
  ok hrun := by
    obtain ⟨taken, a', htaken, ha, hdepth, hok⟩ := h.ok hrun
    exact ⟨taken, a', htaken, himp _ _ ha, hdepth, fun rest' finish' hmeets =>
      hok rest' finish' (hmeets.mono hsub)⟩
  error := h.error

/-- A parser fails for another reason than an unexpected token. -/
theorem failed {e : ParseError} (h : p input = .error e)
    (hfault : ∀ what l, e.fault ≠ .unexpected what (some l)) :
    TracksAt f follow before d R p p' input where
  ok hrun := by
    rw [h] at hrun
    cases hrun
  error hrun := by
    rw [h] at hrun
    cases hrun
    exact absurd rfl (hfault _ _)

/-- More is expected than there is. -/
theorem ended {what : String} {pos : Pos} (h : p input = .error ⟨.unexpected what none, pos⟩) :
    TracksAt f follow before d R p p' input := .failed h nofun

/-- The first token is not expected. -/
theorem reject {what : String}
    (h : p ⟨t :: tokens, finish⟩ = .error ⟨.unexpected what (some t.lexeme), t.pos⟩)
    (h' : ∀ tokens' finish', ∃ e, p' ⟨t.moved f :: tokens', finish'⟩ = .error e) :
    TracksAt f follow before d R p p' ⟨t :: tokens, finish⟩ where
  ok hrun := by
    rw [h] at hrun
    cases hrun
  error hrun := by
    rw [h] at hrun
    cases hrun
    exact ⟨[], t, tokens, rfl, rfl, rfl, rfl, fun _ => h'⟩

theorem pure {a a' : α} (h : R a a') :
    TracksAt f follow before 0 R (Pure.pure a) (Pure.pure a') input where
  ok hrun := by
    cases hrun
    exact ⟨[], a', rfl, h, rfl, fun _ _ _ => rfl⟩
  error := nofun

theorem map {γ : Type} {S : γ → γ → Prop} {g g' : α → γ}
    (h : TracksAt f follow before d R p p' input) (hg : ∀ a a', R a a' → S (g a) (g' a')) :
    TracksAt f follow before d S (g <$> p) (g' <$> p') input where
  ok hrun := by
    obtain ⟨a, hfirst, rfl⟩ := map_eq_ok hrun
    obtain ⟨taken, a', hinput, ha, hdepth, hok⟩ := h.ok hfirst
    exact ⟨taken, g' a', hinput, hg _ _ ha, hdepth, fun rest' finish' hmeets =>
      map_of_ok (hok rest' finish' hmeets)⟩
  error hrun := by
    cases hfirst : p input with
    | ok r =>
      rw [map_of_ok hfirst] at hrun
      cases hrun
    | error e =>
      rw [map_of_error hfirst] at hrun
      cases hrun
      obtain ⟨passed, t, behind, hpassed, hl, hpos, hopen, herror⟩ := h.error hfirst
      refine ⟨passed, t, behind, hpassed, hl, hpos, hopen, fun htest behind' finish' => ?_⟩
      obtain ⟨e, he⟩ := herror htest behind' finish'
      exact ⟨e, map_of_error he⟩

/-! ### One parser after the other -/

/-- Behind some tokens, other parsers go on. -/
theorem after (taken : List Token) {d₁ : Nat} (hdepth : depth? d (taken.map Token.lexeme) = some d₁)
    (hp : p ⟨taken ++ left, finish⟩ = q ⟨left, finish⟩)
    (hp' : ∀ rest' finish', Meets f follow left rest' →
      p' ⟨taken.map (Token.moved f) ++ rest', finish'⟩ = r ⟨rest', finish'⟩)
    (hq : TracksAt f follow (before ++ taken.map Token.lexeme) d₁ R q r ⟨left, finish⟩) :
    TracksAt f follow before d R p p' ⟨taken ++ left, finish⟩ where
  ok hrun := by
    rw [hp] at hrun
    obtain ⟨more, a', hmore, ha, hclosed, hok⟩ := hq.ok hrun
    obtain ⟨rfl, rfl⟩ := TokenList.mk.inj hmore
    refine ⟨taken ++ more, a', ?_, ha, ?_, fun rest' finish' hmeets => ?_⟩
    · rw [List.append_assoc]
    · rw [List.map_append, depth?_append, hdepth]
      exact hclosed
    · rw [List.map_append, List.append_assoc, hp' _ _ (hmeets.append more)]
      exact hok rest' finish' hmeets
  error hrun := by
    rw [hp] at hrun
    obtain ⟨passed, t, behind, hpassed, hl, hpos, hopen, herror⟩ := hq.error hrun
    obtain rfl : left = passed ++ t :: behind := hpassed
    refine ⟨taken ++ passed, t, behind, ?_, hl, hpos, ?_, fun htest behind' finish' => ?_⟩
    · rw [List.append_assoc]
    · rw [List.map_append, depth?_append, hdepth]
      exact hopen
    · rw [List.map_append, ← List.append_assoc] at htest
      rw [List.map_append, List.append_assoc, hp' _ _ ((Meets.token t behind behind').append passed)]
      exact herror htest behind' finish'

/-- The first token is taken. -/
theorem cons {d₁ : Nat} (hdepth : depthBehind? d t.lexeme = some d₁)
    (hp : p ⟨t :: tokens, finish⟩ = q ⟨tokens, finish⟩)
    (hp' : ∀ tokens' finish', p' ⟨t.moved f :: tokens', finish'⟩ = r ⟨tokens', finish'⟩)
    (hq : TracksAt f follow (before ++ [t.lexeme]) d₁ R q r ⟨tokens, finish⟩) :
    TracksAt f follow before d R p p' ⟨t :: tokens, finish⟩ := by
  have hone : depth? d ([t].map Token.lexeme) = some d₁ := by
    show (depthBehind? d t.lexeme).bind _ = _
    rw [hdepth]
    rfl
  exact after [t] hone hp (fun rest' finish' _ => hp' rest' finish') hq

/-- What is left decides which parsers they are. -/
theorem same (hp : p ⟨tokens, finish⟩ = q ⟨tokens, finish⟩)
    (hp' : ∀ rest' finish', Meets f follow tokens rest' → p' ⟨rest', finish'⟩ = r ⟨rest', finish'⟩)
    (hq : TracksAt f follow before d R q r ⟨tokens, finish⟩) :
    TracksAt f follow before d R p p' ⟨tokens, finish⟩ := by
  have hnone : depth? d (([] : List Token).map Token.lexeme) = some d := rfl
  refine after [] hnone hp hp' ?_
  rwa [List.map_nil, List.append_nil]

/-- The first token decides which parsers they are. -/
theorem same_cons (hp : p ⟨t :: tokens, finish⟩ = q ⟨t :: tokens, finish⟩)
    (hp' : ∀ tokens' finish', p' ⟨t.moved f :: tokens', finish'⟩ = r ⟨t.moved f :: tokens', finish'⟩)
    (hq : TracksAt f follow before d R q r ⟨t :: tokens, finish⟩) :
    TracksAt f follow before d R p p' ⟨t :: tokens, finish⟩ := by
  refine same hp (fun rest' finish' hmeets => ?_) hq
  cases hmeets with
  | token t rest rest' => exact hp' rest' finish'

/-- The position of the first token is moved. -/
theorem here {k k' : Pos → Parser α}
    (hk : TracksAt f follow before d R (k t.pos) (k' (f t.pos)) ⟨t :: tokens, finish⟩) :
    TracksAt f follow before d R (Parser.here >>= k) (Parser.here >>= k') ⟨t :: tokens, finish⟩ := by
  refine same_cons ?_ (fun _ _ => ?_) hk
  · rfl
  · rfl

/-- The second parser goes on where the first one stops. Each closes parentheses in front of both. -/
theorem bind_add {n : Nat} (hp : TracksAt f follow before n R p p' input)
    (hk : ∀ a a' taken left, R a a' → p input = .ok (a, left) →
      input = ⟨taken ++ left.tokens, left.finish⟩ →
      TracksAt f follow (before ++ taken.map Token.lexeme) d S (k a) (k' a') left) :
    TracksAt f follow before (n + d) S (p >>= k) (p' >>= k') input := by
  cases hrun : p input with
  | ok r =>
    obtain ⟨a, left⟩ := r
    obtain ⟨taken, a', hinput, ha, hdepth, hok⟩ := hp.ok hrun
    have hnext := hk a a' taken left ha hrun hinput
    have hadd := depth?_add hdepth d
    rw [Nat.zero_add] at hadd
    subst hinput
    exact .after taken hadd (bind_of_ok hrun)
      (fun rest' finish' hmeets => bind_of_ok (hok rest' finish' hmeets)) hnext
  | error e =>
    refine ⟨fun hbind => ?_, fun hbind => ?_⟩
    · rw [bind_of_error hrun] at hbind
      cases hbind
    · rw [bind_of_error hrun] at hbind
      cases hbind
      obtain ⟨passed, t, behind, hpassed, hl, hpos, hopen, herror⟩ := hp.error hrun
      refine ⟨passed, t, behind, hpassed, hl, hpos, ?_, fun htest behind' finish' => ?_⟩
      · obtain ⟨m, hm⟩ := Option.isSome_iff_exists.1 hopen
        exact Option.isSome_of_eq_some (depth?_add hm d)
      · obtain ⟨e, he⟩ := herror htest behind' finish'
        exact ⟨e, bind_of_error he⟩

/-- The first parser closes what it opens. -/
theorem bind (hp : TracksAt f follow before 0 R p p' input)
    (hk : ∀ a a' taken left, R a a' → p input = .ok (a, left) →
      input = ⟨taken ++ left.tokens, left.finish⟩ →
      TracksAt f follow (before ++ taken.map Token.lexeme) d S (k a) (k' a') left) :
    TracksAt f follow before d S (p >>= k) (p' >>= k') input :=
  Nat.zero_add d ▸ bind_add hp hk

/-! ### Looking at the next token -/

section Next

variable {γ : Type} {g : Lexeme → Option γ} {j j' : Option γ → Parser α} {l : Lexeme}

theorem take? (hsome : ∀ c, g t.lexeme = some c → ∃ d₁, depthBehind? d t.lexeme = some d₁ ∧
      TracksAt f follow (before ++ [t.lexeme]) d₁ R (j (some c)) (j' (some c)) ⟨tokens, finish⟩)
    (hnone : g t.lexeme = none →
      TracksAt f follow before d R (j none) (j' none) ⟨t :: tokens, finish⟩) :
    TracksAt f follow before d R (Parser.take? g >>= j) (Parser.take? g >>= j')
      ⟨t :: tokens, finish⟩ := by
  cases hg : g t.lexeme with
  | some c =>
    obtain ⟨d₁, hdepth, hj⟩ := hsome c hg
    exact .cons hdepth (bind_take?_some hg finish)
      (fun _ => bind_take?_some (t := t.moved f) hg) hj
  | none =>
    exact .same_cons (bind_take?_none hg finish) (fun _ => bind_take?_none (t := t.moved f) hg)
      (hnone hg)

theorem eat {j j' : Bool → Parser α}
    (htrue : t.lexeme = l → ∃ d₁, depthBehind? d l = some d₁ ∧
      TracksAt f follow (before ++ [l]) d₁ R (j true) (j' true) ⟨tokens, finish⟩)
    (hfalse : t.lexeme ≠ l → TracksAt f follow before d R (j false) (j' false) ⟨t :: tokens, finish⟩) :
    TracksAt f follow before d R (Parser.eat l >>= j) (Parser.eat l >>= j') ⟨t :: tokens, finish⟩ := by
  by_cases h : t.lexeme = l
  · obtain ⟨d₁, hdepth, hj⟩ := htrue h
    subst h
    exact .cons hdepth (bind_eat_self rfl) (fun _ _ => bind_eat_self (t := t.moved f) rfl) hj
  · exact .same_cons (bind_eat_ne h) (fun _ _ => bind_eat_ne (t := t.moved f) h) (hfalse h)

end Next

end TracksAt

namespace Tracks

theorem mono {follow' : List Lexeme} (h : Tracks f follow before d R p p')
    (hsub : ∀ l ∈ follow', l ∈ follow) (himp : ∀ a a', R a a' → R' a a') :
    Tracks f follow' before d R' p p' := fun input => (h input).mono hsub himp

theorem pure {a a' : α} (h : R a a') : Tracks f follow before 0 R (Pure.pure a) (Pure.pure a') :=
  fun _ => .pure h

theorem map {γ : Type} {S : γ → γ → Prop} {g g' : α → γ} (h : Tracks f follow before d R p p')
    (hg : ∀ a a', R a a' → S (g a) (g' a')) : Tracks f follow before d S (g <$> p) (g' <$> p') :=
  fun input => (h input).map hg

theorem bind (hp : Tracks f follow before 0 R p p')
    (hk : ∀ a a', R a a' → ∀ before, Tracks f follow before d S (k a) (k' a')) :
    Tracks f follow before d S (p >>= k) (p' >>= k') :=
  fun input => (hp input).bind fun a a' _ left ha _ _ => hk a a' ha _ left

/-- The first parser closes all that is to be closed. -/
theorem bind_closed (hp : Tracks f follow before d Eq p p')
    (hk : ∀ a before, Tracks f follow before 0 S (k a) (k' a)) :
    Tracks f follow before d S (p >>= k) (p' >>= k') := by
  intro input
  refine TracksAt.bind_add (d := 0) (hp input) fun a a' taken left h _ _ => ?_
  subst h
  exact hk a _ left

/-- What the first parser gives back is the same. -/
theorem bind_eq (hp : Tracks f follow before 0 Eq p p')
    (hk : ∀ a before, Tracks f follow before d S (k a) (k' a)) :
    Tracks f follow before d S (p >>= k) (p' >>= k') :=
  hp.bind fun a _ h before => h ▸ hk a before

/-! ### Errors -/

theorem fail {fault : Fault} (h : ∀ what l, fault ≠ .unexpected what (some l)) :
    Tracks f follow before d R (fail fault) p' := fun _ => .failed rfl h

theorem failAt {pos : Pos} {fault : Fault} (h : ∀ what l, fault ≠ .unexpected what (some l)) :
    Tracks f follow before d R (failAt pos fault) p' := fun _ => .failed rfl h

theorem unexpected (what : String) :
    Tracks f follow before d R (unexpected what) (unexpected what)
  | ⟨[], _⟩ => .ended rfl
  | ⟨_ :: _, _⟩ => .reject rfl fun _ _ => ⟨_, rfl⟩

/-! ### The next token -/

/-- The position of what comes next is moved; something comes. -/
theorem here {k k' : Pos → Parser α}
    (hnil : ∀ finish a left, k finish ⟨[], finish⟩ ≠ .ok (a, left))
    (hk : ∀ pos, Tracks f follow before d R (k pos) (k' (f pos))) :
    Tracks f follow before d R (Parser.here >>= k) (Parser.here >>= k')
  | ⟨[], finish⟩ => by
    refine ⟨fun hrun => absurd hrun (hnil finish _ _), fun hrun => ?_⟩
    obtain ⟨passed, t, behind, hpassed, -⟩ := (hk finish ⟨[], finish⟩).error hrun
    exact absurd hpassed.symm (by simp)
  | ⟨t :: tokens, finish⟩ => .here (hk t.pos ⟨t :: tokens, finish⟩)

section Next

variable {γ : Type} {g : Lexeme → Option γ} {j j' : Option γ → Parser α} {l : Lexeme}

theorem bind_take? (hfollow : ∀ m ∈ follow, g m = none)
    (hsome : ∀ m c, g m = some c → ∃ d₁, depthBehind? d m = some d₁ ∧
      Tracks f follow (before ++ [m]) d₁ R (j (some c)) (j' (some c)))
    (hnone : Tracks f follow before d R (j none) (j' none)) :
    Tracks f follow before d R (take? g >>= j) (take? g >>= j')
  | ⟨[], finish⟩ => by
    refine .same ?_ (fun rest' finish' hmeets => ?_) (hnone ⟨[], finish⟩)
    · rfl
    · cases hmeets with
      | nothing => rfl
      | next h rest' => exact bind_take?_none (hfollow _ h) finish'
  | ⟨t :: tokens, finish⟩ => by
    refine .take? (fun c hc => ?_) fun _ => hnone _
    obtain ⟨d₁, hdepth, hj⟩ := hsome _ c hc
    exact ⟨d₁, hdepth, hj ⟨tokens, finish⟩⟩

/-- A token that may be next, and no token of `follow` is one. -/
theorem take? (hfollow : ∀ m ∈ follow, g m = none)
    (hneutral : ∀ m c, g m = some c → depthBehind? 0 m = some 0) :
    Tracks f follow before 0 Eq (take? g) (take? g) := by
  rw [← bind_pure (Parser.take? g)]
  exact bind_take? hfollow (fun m c hc => ⟨0, hneutral m c hc, .pure rfl⟩) (.pure rfl)

/-- A decision about the next token that is the same for no token and those of `follow`. -/
theorem bind_peek? {j j' : Option Lexeme → Parser α} (hfollow : ∀ m ∈ follow, j' (some m) = j' none)
    (hj : ∀ l?, Tracks f follow before d R (j l?) (j' l?)) :
    Tracks f follow before d R (peek? >>= j) (peek? >>= j')
  | ⟨[], finish⟩ => by
    refine .same ?_ (fun rest' finish' hmeets => ?_) (hj none ⟨[], finish⟩)
    · rfl
    · cases hmeets with
      | nothing => rfl
      | next h rest' => exact congrFun (hfollow _ h) _
  | ⟨t :: tokens, finish⟩ => by
    refine .same_cons ?_ (fun _ _ => ?_) (hj (some t.lexeme) ⟨t :: tokens, finish⟩)
    · rfl
    · rfl

theorem bind_eat {j j' : Bool → Parser α} {d₁ : Nat} (hfollow : l ∉ follow)
    (hdepth : depthBehind? d l = some d₁)
    (htrue : Tracks f follow (before ++ [l]) d₁ R (j true) (j' true))
    (hfalse : Tracks f follow before d R (j false) (j' false)) :
    Tracks f follow before d R (eat l >>= j) (eat l >>= j') := by
  rw [eat_bind, eat_bind]
  refine .bind_take? (fun m hm => if_neg ?_) (fun m c hc => ?_) hfalse
  · rintro rfl
    exact hfollow hm
  · split at hc
    · next h => exact ⟨d₁, h ▸ hdepth, h ▸ htrue⟩
    · cases hc

theorem take {what : String} (hneutral : ∀ m c, g m = some c → depthBehind? 0 m = some 0) :
    Tracks f follow before 0 Eq (take what g) (take what g)
  | ⟨[], _⟩ => .ended rfl
  | ⟨t :: tokens, finish⟩ => by
    refine .take? (fun c hc => ⟨0, hneutral _ _ hc, .pure rfl⟩) fun _ => ?_
    exact unexpected what ⟨t :: tokens, finish⟩

/-- A token that has to be next. -/
theorem bind_expect {what : String} {j j' : Unit → Parser α} {d₁ : Nat}
    (hdepth : depthBehind? d l = some d₁)
    (hj : Tracks f follow (before ++ [l]) d₁ R (j ()) (j' ())) :
    Tracks f follow before d R (expect l what >>= j) (expect l what >>= j')
  | ⟨[], _⟩ => .ended rfl
  | ⟨t :: tokens, finish⟩ => by
    by_cases h : t.lexeme = l
    · subst h
      exact .cons hdepth (bind_expect_self rfl) (fun _ _ => bind_expect_self (t := t.moved f) rfl)
        (hj ⟨tokens, finish⟩)
    · exact .reject (bind_expect_ne h) fun _ _ => ⟨_, bind_expect_ne (t := t.moved f) h⟩

end Next

/-! ### Repetition -/

theorem steps {step step' : σ → Parser (Option σ)} {R : σ → σ → Prop}
    (htakes : ∀ s, Productive (step s))
    (htakes' : ∀ s, Productive (step' s))
    (hstep : ∀ s s', R s s' → ∀ before, Tracks f follow before 0 (Option.Rel R) (step s) (step' s'))
    {s s' : σ} (hs : R s s') : Tracks f follow before 0 R (steps step s) (steps step' s') := by
  intro input
  induction hn : input.tokens.length using Nat.strongRecOn generalizing input s s' before with
  | ind n ih =>
    rw [steps_eq htakes, steps_eq htakes']
    refine (hstep s s' hs before input).bind fun r r' taken left hr hrun hinput => ?_
    cases hr with
    | none => exact .pure hs
    | some hnext =>
      obtain ⟨taken, htaken, -, hne⟩ := htakes s _ _ _ hrun
      have hpos := List.length_pos_iff.2 (hne rfl)
      refine ih left.tokens.length ?_ hnext left rfl
      rw [← hn, htaken, List.length_append]
      omega

theorem many {item item' : Parser (Option α)} (hproductive : Productive item)
    (hproductive' : Productive item')
    (hitem : ∀ before, Tracks f follow before 0 (Option.Rel R) item item') :
    Tracks f follow before 0 (List.Forall₂ R) (many item) (many item') := by
  refine (steps hproductive.keep hproductive'.keep
    (fun items items' hitems before => (hitem before).map fun r r' hr => ?_) .nil).map
      fun _ _ h => List.rel_reverse h
  cases hr with
  | none => exact .none
  | some h => exact .some (.cons h hitems)

section Chain

variable {operator : Parser (Option (α → α → α))} {operand operand' : Parser α}
  {C : List Lexeme → Prop}

/-- Every operand but the first one stands behind an operator. -/
theorem links (hoperand : ∀ before, C before → Tracks f follow before 0 R operand operand')
    (hoperator : ∀ before, Tracks f follow before 0 Eq operator operator)
    (hcombine : ∀ input combine left, operator input = .ok (some combine, left) →
      (∀ a a' b b', R a a' → R b b' → R (combine a b) (combine a' b')) ∧
        ∀ before taken, input.tokens = taken ++ left.tokens →
          C (before ++ taken.map Token.lexeme)) {n : Nat} {a a' : α} (ha : R a a') :
    Tracks f follow before 0 R (links operator operand n a) (links operator operand' n a') := by
  induction n generalizing before a a' with
  | zero =>
    intro input
    rw [links.eq_def, links.eq_def]
    refine (hoperator before input).bind fun r r' taken left hr hrun htaken => ?_
    subst hr
    cases r with
    | none => exact .pure ha
    | some combine => exact .failed rfl fun _ _ => Fault.noConfusion
  | succ n ih =>
    intro input
    rw [links.eq_def, links.eq_def]
    refine (hoperator before input).bind fun r r' taken left hr hrun htaken => ?_
    subst hr
    cases r with
    | none => exact .pure ha
    | some combine =>
      obtain ⟨hR, hC⟩ := hcombine _ _ _ hrun
      have hbehind := hC before taken (congrArg TokenList.tokens htaken)
      exact (hoperand _ hbehind left).bind fun b b' _ left hb _ _ => ih (hR a a' b b' ha hb) left

theorem chain (hoperand : ∀ before, C before → Tracks f follow before 0 R operand operand')
    (hoperator : ∀ before, Tracks f follow before 0 Eq operator operator)
    (hcombine : ∀ input combine left, operator input = .ok (some combine, left) →
      (∀ a a' b b', R a a' → R b b' → R (combine a b) (combine a' b')) ∧
        ∀ before taken, input.tokens = taken ++ left.tokens →
          C (before ++ taken.map Token.lexeme))
    (hbefore : C before) :
    Tracks f follow before 0 R (chain operator operand) (chain operator operand') :=
  (hoperand before hbefore).bind fun _ _ ha _ => links hoperand hoperator hcombine ha

end Chain

end Tracks

end Parser

end Skirmish.Script
