import Skirmish.Proofs.Script.Taking

/-!
# What parsers read

A parser reads a list of lexemes if it takes exactly the tokens with these lexemes, wherever they
stand, and leaves everything behind them (`Reads`). Parsers look ahead, so what stands behind may
have to be known. The rules below follow the ways in which parsers are put together.
-/

namespace Skirmish.Script.Parser

variable {α β σ : Type}

/-- In front of lexemes that satisfy `next`, `p` takes exactly the lexemes `ls`, and `Q` holds of
what it gives back. -/
def Reads (p : Parser α) (ls : List Lexeme) (next : List Lexeme → Prop) (Q : α → Prop) : Prop :=
  ∀ ts rest finish, ts.map Token.lexeme = ls → next (rest.map Token.lexeme) →
    ∃ a, p ⟨ts ++ rest, finish⟩ = .ok (a, ⟨rest, finish⟩) ∧ Q a

theorem bind_of_ok {p : Parser α} {f : α → Parser β} {input rest : TokenList} {a : α}
    (h : p input = .ok (a, rest)) : (p >>= f) input = f a rest := by
  show (p input).bind _ = _
  rw [h]
  rfl

/-- Anything may follow. -/
def Any : List Lexeme → Prop := fun _ => True

namespace Reads

variable {p : Parser α} {f : α → Parser β} {ls ms : List Lexeme} {l : Lexeme}
  {next follow : List Lexeme → Prop} {P : α → Prop} {Q : β → Prop} {a : α}

theorem mono {P' : α → Prop} (h : Reads p ls follow P) (hnext : ∀ ms, next ms → follow ms)
    (himp : ∀ a, P a → P' a) : Reads p ls next P' := by
  intro ts rest finish hts hrest
  obtain ⟨a, hrun, ha⟩ := h ts rest finish hts (hnext _ hrest)
  exact ⟨a, hrun, himp a ha⟩

/-- What takes no token only looks ahead. -/
theorem nil_iff : Reads p [] next P ↔ ∀ rest finish, next (rest.map Token.lexeme) →
    ∃ a, p ⟨rest, finish⟩ = .ok (a, ⟨rest, finish⟩) ∧ P a := by
  constructor
  · exact fun h rest finish hrest => h [] rest finish rfl hrest
  · intro h ts rest finish hts hrest
    obtain rfl := List.map_eq_nil_iff.1 hts
    exact h rest finish hrest

theorem pure (h : P a) : Reads (pure a) [] next P :=
  nil_iff.2 fun _ _ _ => ⟨a, rfl, h⟩

theorem bind (hp : Reads p ls follow P) (hfollow : ∀ rest, next rest → follow (ms ++ rest))
    (hf : ∀ a, P a → Reads (f a) ms next Q) : Reads (p >>= f) (ls ++ ms) next Q := by
  intro ts rest finish hts hrest
  obtain ⟨us, vs, rfl, hus, hvs⟩ := List.map_eq_append_iff.1 hts
  have hbehind : follow ((vs ++ rest).map Token.lexeme) := by
    rw [List.map_append, hvs]
    exact hfollow _ hrest
  obtain ⟨a, hfirst, ha⟩ := hp us (vs ++ rest) finish hus hbehind
  obtain ⟨b, hsecond, hb⟩ := hf a ha vs rest finish hvs hrest
  refine ⟨b, ?_, hb⟩
  rw [List.append_assoc, bind_of_ok hfirst, hsecond]

/-- The second parser takes nothing. -/
theorem bind_last (hp : Reads p ls follow P) (hfollow : ∀ rest, next rest → follow rest)
    (hf : ∀ a, P a → Reads (f a) [] next Q) : Reads (p >>= f) ls next Q := by
  have h := bind hp hfollow hf
  rwa [List.append_nil] at h

/-- What the first parser gives back is known. -/
theorem bind_eq (hp : Reads p ls follow (· = a)) (hfollow : ∀ rest, next rest → follow (ms ++ rest))
    (hf : Reads (f a) ms next Q) : Reads (p >>= f) (ls ++ ms) next Q :=
  bind hp hfollow fun _ ha => ha ▸ hf

/-- The first parser only looks ahead. -/
theorem bind_nil (hp : Reads p [] follow (· = a))
    (hfollow : ∀ rest, next rest → follow (ms ++ rest)) (hf : Reads (f a) ms next Q) : Reads (p >>= f) ms next Q :=
  bind_eq hp hfollow hf

/-- The first parser takes one token. -/
theorem bind_cons (hp : Reads p [l] Any (· = a)) (hf : Reads (f a) ms next Q) :
    Reads (p >>= f) (l :: ms) next Q :=
  bind_eq hp (fun _ _ => trivial) hf

/-- The first parser takes all there is, and what it gives back is known. -/
theorem bind_pure (hp : Reads p ls follow (· = a)) (hfollow : ∀ rest, next rest → follow rest)
    (hf : Reads (f a) [] next Q) : Reads (p >>= f) ls next Q :=
  bind_last hp hfollow fun _ ha => ha ▸ hf

theorem map {g : α → β} (hp : Reads p ls next fun a => Q (g a)) : Reads (g <$> p) ls next Q := by
  intro ts rest finish hts hrest
  obtain ⟨a, hrun, ha⟩ := hp ts rest finish hts hrest
  exact ⟨g a, bind_of_ok (f := fun a => Pure.pure (g a)) hrun, ha⟩

/-! ## The next token -/

theorem here {f : Pos → Parser β} (hf : ∀ pos, Reads (f pos) ls next Q) :
    Reads (here >>= f) ls next Q := by
  intro ts rest finish hts hrest
  exact hf _ ts rest finish hts hrest

theorem get {f : TokenList → Parser β}
    (hf : ∀ input rest, input.tokens.map Token.lexeme = ls ++ rest → Reads (f input) ls next Q) :
    Reads (get >>= f) ls next Q := by
  intro ts rest finish hts hrest
  refine hf ⟨ts ++ rest, finish⟩ (rest.map Token.lexeme) ?_ ts rest finish hts hrest
  rw [List.map_append, hts]

theorem peek? {l? : Option Lexeme} {f : Option Lexeme → Parser β}
    (h : ∀ rest, next rest → (ls ++ rest).head? = l?) (hf : Reads (f l?) ls next Q) :
    Reads (peek? >>= f) ls next Q := by
  intro ts rest finish hts hrest
  have hl : (ts ++ rest).head?.map Token.lexeme = l? := by
    rw [← List.head?_map, List.map_append, hts, h _ hrest]
  obtain ⟨b, hrun, hb⟩ := hf ts rest finish hts hrest
  refine ⟨b, ?_, hb⟩
  rw [← hrun, ← hl]
  rfl

/-- What follows is looked at, and nothing is taken. -/
theorem peek?_nil {f : Option Lexeme → Parser β}
    (hf : ∀ ms, next ms → Reads (f ms.head?) [] (· = ms) Q) :
    Reads (Parser.peek? >>= f) [] next Q := by
  refine nil_iff.2 fun rest finish hrest => ?_
  obtain ⟨b, hrun, hb⟩ := nil_iff.1 (hf _ hrest) rest finish rfl
  rw [List.head?_map] at hrun
  exact ⟨b, hrun, hb⟩

theorem skip : Reads skip [l] Any (· = ()) := by
  intro ts rest finish hts _
  obtain ⟨t, rfl, -⟩ := List.map_eq_singleton_iff.1 hts
  exact ⟨(), rfl, rfl⟩

theorem take? {f : Lexeme → Option α} (h : f l = some a) :
    Reads (take? f) [l] Any (· = some a) := by
  intro ts rest finish hts _
  obtain ⟨t, rfl, rfl⟩ := List.map_eq_singleton_iff.1 hts
  have hknown : ((([t] ++ rest).head?.map Token.lexeme).bind f) = some a := h
  refine ⟨some a, ?_, rfl⟩
  rw [take?_apply, hknown]
  rfl

theorem take?_none {f : Lexeme → Option α} :
    Reads (Parser.take? f) [] (fun ms => ms.head?.bind f = none) (· = none) := by
  refine nil_iff.2 fun rest finish hrest => ⟨none, ?_, rfl⟩
  rw [take?_apply, ← List.head?_map, hrest]

theorem take {what : String} {f : Lexeme → Option α} (h : f l = some a) :
    Reads (take what f) [l] Any (· = a) :=
  .bind_cons (.take? h) (.pure rfl)

theorem eat : Reads (eat l) [l] Any (· = true) :=
  .bind_cons (.take? (if_pos rfl)) (.pure rfl)

theorem eat_none : Reads (Parser.eat l) [] (fun ms => ms.head? ≠ some l) (· = false) := by
  refine .bind_nil .take?_none (fun ms hms => ?_) (.pure rfl)
  rw [List.nil_append]
  cases hhead : ms.head? with
  | none => rfl
  | some m =>
    rw [Option.bind_some, if_neg]
    rintro rfl
    exact hms hhead

theorem expect {what : String} : Reads (expect l what) [l] Any (· = ()) :=
  .bind_cons .eat (.pure rfl)

/-- Another token is next than the one that is looked for. -/
theorem bind_eat_ne {m : Lexeme} {f : Bool → Parser β} (h : l ≠ m)
    (hf : Reads (f false) (l :: ms) next Q) : Reads (Parser.eat m >>= f) (l :: ms) next Q :=
  bind_nil eat_none (fun _ _ heq => h (Option.some.inj heq)) hf

theorem bind_take?_none {g : Lexeme → Option α} {f : Option α → Parser β} (h : g l = none)
    (hf : Reads (f none) (l :: ms) next Q) : Reads (Parser.take? g >>= f) (l :: ms) next Q :=
  bind_nil take?_none (fun _ _ => h) hf

/-- An attempt that succeeds is what it attempts. -/
theorem attempt {p : Parser (Option α)} (h : Reads p ls next fun r => ∃ a, r = some a ∧ P a) :
    Reads (attempt p) ls next fun r => ∃ a, r = some a ∧ P a := by
  intro ts rest finish hts hrest
  obtain ⟨_, hrun, a, rfl, ha⟩ := h ts rest finish hts hrest
  exact ⟨some a, by rw [Parser.attempt, hrun], a, rfl, ha⟩

/-- An attempt at something that is rejected further on takes nothing. -/
theorem attempt_none {p : Parser (Option α)} (h : Reads p ls follow (· = none)) :
    Reads (Parser.attempt p) [] (fun ms => ∃ rest, ms = ls ++ rest ∧ follow rest) (· = none) := by
  refine nil_iff.2 fun rest finish hrest => ⟨none, ?_, rfl⟩
  obtain ⟨ms, hms, hfollow⟩ := hrest
  obtain ⟨us, vs, rfl, hus, rfl⟩ := List.map_eq_append_iff.1 hms
  obtain ⟨_, hrun, rfl⟩ := h us vs finish hus hfollow
  rw [Parser.attempt, hrun]

/-! ## Repetition -/

/-- Steps read what is left of a list, one piece after the other. What is left, and the state so
far, are tied together by `I`. -/
theorem steps {step : σ → Parser (Option σ)} {Q : σ → Prop} {I : List Lexeme → σ → Prop}
    (hstep : ∀ ls s, I ls s →
      (Reads (step s) ls next (· = none) ∧ Q s) ∨
        ∃ us vs follow, ls = us ++ vs ∧ us ≠ [] ∧ (∀ rest, next rest → follow (vs ++ rest)) ∧
          Reads (step s) us follow fun r => ∃ s', r = some s' ∧ I vs s')
    {s : σ} (hs : I ls s) : Reads (steps step s) ls next Q := by
  -- every step but the last takes a token, so the steps allowed are enough
  have hwithin : ∀ n ls s, ls.length < n → I ls s → Reads (stepsWithin step n s) ls next Q := by
    intro n
    induction n with
    | zero => exact fun _ _ hlt _ => absurd hlt (Nat.not_lt_zero _)
    | succ n ih =>
      intro ls s hlt hs
      obtain ⟨hend, hQ⟩ | ⟨us, vs, follow, rfl, hne, hfollow, hnext⟩ := hstep ls s hs
      · exact .bind_last hend (fun _ h => h) fun _ hr => hr ▸ .pure hQ
      · refine .bind hnext hfollow fun r hr => ?_
        obtain ⟨s', rfl, hs'⟩ := hr
        refine ih vs s' ?_ hs'
        have hpos := List.length_pos_iff.2 hne
        rw [List.length_append] at hlt
        omega
  intro ts rest finish hts hrest
  refine hwithin _ ls s ?_ hs ts rest finish hts hrest
  rw [← hts, List.length_map, List.length_append]
  omega

section Chain

variable {operator : Parser (Option (α → α → α))} {operand : Parser α} {P P₁ P₂ : α → Prop}

/-- A chain may be a single operand. -/
theorem chain_one (hoperand : Reads operand ls next P)
    (hend : Reads operator [] next (· = none)) : Reads (chain operator operand) ls next P := by
  refine .bind_last hoperand (fun _ h => h) fun a ha => ?_
  rw [links.eq_def]
  exact .bind_nil hend (fun _ h => h) (.pure ha)

theorem chain_two {combine : α → α → α} (hlhs : Reads operand ls follow P₁)
    (hfollow : ∀ rest, follow (l :: rest)) (hoperator : Reads operator [l] Any (· = some combine))
    (hrhs : Reads operand ms next P₂) (hend : Reads operator [] next (· = none))
    (hcombine : ∀ a b, P₁ a → P₂ b → P (combine a b)) :
    Reads (chain operator operand) (ls ++ l :: ms) next P := by
  refine .bind hlhs (fun _ _ => hfollow _) fun a ha => ?_
  rw [links.eq_def]
  refine .bind_cons hoperator (.bind_last hrhs (fun _ h => h) fun b hb => ?_)
  rw [links.eq_def]
  exact .bind_nil hend (fun _ h => h) (.pure (hcombine a b ha hb))

end Chain

end Reads

end Skirmish.Script.Parser
