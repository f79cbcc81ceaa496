import Skirmish.Script.Parser

/-!
# What parsers take

A parser that succeeds has taken tokens off the front of its input and left the rest as it is
(`Takes`). What it gives back is told by the tokens it took. The rules below follow the ways in
which parsers are put together.
-/

namespace Skirmish.Script.Parser

variable {α β σ : Type}

/-- Where `p` succeeds, it has taken tokens off the front of its input, and `Q` holds of them and of
what it gives back. -/
def Takes (p : Parser α) (Q : List Token → α → Prop) : Prop :=
  ∀ input a rest, p input = .ok (a, rest) →
    ∃ taken, input.tokens = taken ++ rest.tokens ∧ input.finish = rest.finish ∧ Q taken a

theorem bind_eq_ok {p : Parser α} {f : α → Parser β} {input rest : TokenList} {b : β} :
    (p >>= f) input = .ok (b, rest) ↔
      ∃ a mid, p input = .ok (a, mid) ∧ f a mid = .ok (b, rest) := by
  have hbind : (p >>= f) input = (p input).bind fun r => f r.1 r.2 := rfl
  rw [hbind]
  cases p input with
  | error e => exact ⟨nofun, fun ⟨_, _, h, _⟩ => nomatch h⟩
  | ok r =>
    exact ⟨fun h => ⟨r.1, r.2, rfl, h⟩, fun ⟨_, _, h, h'⟩ => by cases h; exact h'⟩

theorem take?_apply (f : Lexeme → Option α) (input : TokenList) :
    take? f input =
      match (input.tokens.head?.map Token.lexeme).bind f with
      | some a => .ok (some a, { input with tokens := input.tokens.tail })
      | none => .ok (none, input) := by
  have hpeek : take? f input =
      (match (input.tokens.head?.map Token.lexeme).bind f with
        | some a => do skip; return some a
        | none => return none : Parser (Option α)) input := rfl
  rw [hpeek]
  cases (input.tokens.head?.map Token.lexeme).bind f <;> rfl

namespace Takes

variable {P : List Token → α → Prop} {Q : List Token → β → Prop}

theorem mono {Q' : List Token → α → Prop} {p : Parser α} (h : Takes p P)
    (himp : ∀ ts a, P ts a → Q' ts a) : Takes p Q' := by
  intro input a rest hrun
  obtain ⟨ts, hts, hfinish, ha⟩ := h input a rest hrun
  exact ⟨ts, hts, hfinish, himp ts a ha⟩

theorem pure {b : β} (h : Q [] b) : Takes (pure b) Q := by
  intro input a rest hrun
  cases hrun
  exact ⟨[], rfl, rfl, h⟩

theorem bind {p : Parser α} {f : α → Parser β} (hp : Takes p P)
    (hf : ∀ ts a, P ts a → Takes (f a) fun us b => Q (ts ++ us) b) : Takes (p >>= f) Q := by
  intro input b rest hrun
  obtain ⟨a, mid, hfirst, hsecond⟩ := bind_eq_ok.1 hrun
  obtain ⟨ts, hts, hfinish, ha⟩ := hp input a mid hfirst
  obtain ⟨us, hus, hfinish', hb⟩ := hf ts a ha mid b rest hsecond
  exact ⟨ts ++ us, by rw [hts, hus, List.append_assoc], hfinish.trans hfinish', hb⟩

theorem map {p : Parser α} {f : α → β} (hp : Takes p fun ts a => Q ts (f a)) :
    Takes (f <$> p) Q := by
  intro input b rest hrun
  obtain ⟨a, mid, hfirst, hsecond⟩ := bind_eq_ok (p := p) (f := fun a => Pure.pure (f a)).1 hrun
  cases hsecond
  exact hp input a _ hfirst

theorem failAt (pos : Pos) (fault : Fault) : Takes (failAt pos fault) Q := nofun

theorem fail (fault : Fault) : Takes (fail fault) Q := nofun

theorem unexpected (what : String) : Takes (unexpected what) Q := nofun

/-! ## The next token -/

theorem peek? : Takes peek? fun ts _ => ts = [] := by
  intro input a rest hrun
  cases hrun
  exact ⟨[], rfl, rfl, rfl⟩

/-- The position told by `here` is that of the first token taken afterwards, if any is. -/
theorem here {f : Pos → Parser β}
    (hf : ∀ pos, Takes (f pos) fun ts b => (∀ t ∈ ts.head?, t.pos = pos) → Q ts b) :
    Takes (here >>= f) Q := by
  intro input b rest hrun
  obtain ⟨pos, mid, hhere, hrun⟩ := bind_eq_ok.1 hrun
  cases hhere
  obtain ⟨ts, hts, hfinish, hb⟩ := hf _ input b rest hrun
  refine ⟨ts, hts, hfinish, hb fun t ht => ?_⟩
  rw [hts, List.head?_append, ht]
  rfl

theorem get {f : TokenList → Parser β} (hf : ∀ input, Takes (f input) Q) :
    Takes (get >>= f) Q := by
  intro input b rest hrun
  obtain ⟨start, mid, hget, hrun⟩ := bind_eq_ok.1 hrun
  cases hget
  exact hf input input b rest hrun

theorem skip : Takes skip fun _ _ => True := by
  rintro ⟨tokens, finish⟩ a rest hrun
  cases hrun
  refine ⟨tokens.take 1, ?_, rfl, trivial⟩
  change tokens = tokens.take 1 ++ tokens.tail
  rw [← List.drop_one, List.take_append_drop]

theorem skipAll (passes : Lexeme → Bool) : Takes (skipAll passes) fun _ _ => True := by
  rintro ⟨tokens, finish⟩ a rest hrun
  cases hrun
  exact ⟨_, List.takeWhile_append_dropWhile.symm, rfl, trivial⟩

theorem take? (f : Lexeme → Option α) : Takes (take? f) fun ts r =>
    (r = none ∧ ts = []) ∨ ∃ t a, r = some a ∧ ts = [t] ∧ f t.lexeme = some a := by
  rintro ⟨tokens, finish⟩ r rest hrun
  rw [take?_apply] at hrun
  split at hrun
  · next a ha =>
    obtain ⟨l, hl, hfa⟩ := Option.bind_eq_some_iff.1 ha
    obtain ⟨t, ht, rfl⟩ := Option.map_eq_some_iff.1 hl
    cases hrun
    refine ⟨[t], ?_, rfl, .inr ⟨t, a, rfl, rfl, hfa⟩⟩
    obtain ⟨tail, rfl⟩ := List.head?_eq_some_iff.1 ht
    rfl
  · cases hrun
    exact ⟨[], rfl, rfl, .inl ⟨rfl, rfl⟩⟩

theorem take (what : String) (f : Lexeme → Option α) :
    Takes (take what f) fun ts a => ∃ t, ts = [t] ∧ f t.lexeme = some a := by
  refine .bind (.take? f) fun ts r hr => ?_
  obtain ⟨rfl, rfl⟩ | ⟨t, a, rfl, rfl, ha⟩ := hr
  · exact .unexpected what
  · exact .pure ⟨t, rfl, ha⟩

theorem eat (lex : Lexeme) : Takes (eat lex) fun ts b =>
    (b = false ∧ ts = []) ∨ ∃ t, b = true ∧ ts = [t] ∧ t.lexeme = lex := by
  refine .bind (.take? _) fun ts r hr => .pure ?_
  obtain ⟨rfl, rfl⟩ | ⟨t, a, rfl, rfl, ha⟩ := hr
  · exact .inl ⟨rfl, rfl⟩
  · exact .inr ⟨t, rfl, rfl, by grind⟩

theorem expect (lex : Lexeme) (what : String) : Takes (expect lex what) fun _ _ => True := by
  refine .bind (.eat lex) fun ts b _ => ?_
  split
  · exact .unexpected what
  · exact .pure trivial

theorem attempt {p : Parser (Option α)} {Q : List Token → Option α → Prop} (hnone : Q [] none)
    (hp : Takes p Q) : Takes (attempt p) Q := by
  intro input r rest hrun
  rw [Parser.attempt] at hrun
  split at hrun
  · next a mid hsome =>
    cases hrun
    exact hp _ _ _ hsome
  · cases hrun
    exact ⟨[], rfl, rfl, hnone⟩

/-! ## Repetition -/

/-- What every step keeps, repetition keeps. -/
theorem steps {step : σ → Parser (Option σ)} {s : σ} {I : List Token → σ → Prop} (hs : I [] s)
    (hstep : ∀ ts s, I ts s → Takes (step s) fun us r => I (ts ++ us) (r.getD s)) :
    Takes (steps step s) I := by
  have hwithin : ∀ n ts s, I ts s → Takes (stepsWithin step n s) fun us s => I (ts ++ us) s := by
    intro n
    induction n with
    | zero =>
      intro ts s h
      refine .pure ?_
      rwa [List.append_nil]
    | succ n ih =>
      intro ts s h
      refine .bind (hstep ts s h) fun us r hr => ?_
      cases r with
      | none => exact .pure (by rwa [List.append_nil])
      | some next => exact (ih (ts ++ us) next hr).mono fun vs s hs => by rwa [← List.append_assoc]
  exact .get fun input => hwithin _ [] s hs

theorem many {item : Parser (Option α)} {I : List Token → List α → Prop} (hnil : I [] [])
    (hitem : ∀ ts l, I ts l → Takes item fun us r => I (ts ++ us) (l ++ r.toList)) :
    Takes (many item) I := by
  -- `steps` collects the items from the last one to the first
  refine .map (.steps hnil fun ts items hitems => .map ?_)
  refine (hitem ts items.reverse hitems).mono fun us r hr => ?_
  cases r with
  | none => simpa using hr
  | some a => simpa using hr

theorem chain {operator : Parser (Option (α → α → α))} {operand : Parser α}
    {Q : List Token → α → Prop} (hoperand : Takes operand Q)
    (hoperator : ∀ ts a, Q ts a → Takes operator fun us r =>
      match r with
      | none => Q (ts ++ us) a
      | some combine => Takes operand fun vs b => Q (ts ++ (us ++ vs)) (combine a b)) :
    Takes (chain operator operand) Q := by
  have hlinks : ∀ left ts a, Q ts a →
      Takes (links operator operand left a) fun us b => Q (ts ++ us) b := by
    intro left
    induction left with
    | zero =>
      intro ts a ha
      rw [links.eq_def]
      refine .bind (hoperator ts a ha) fun us r hr => ?_
      cases r with
      | none => exact .pure (by rwa [List.append_nil])
      | some combine => exact .fail _
    | succ left ih =>
      intro ts a ha
      rw [links.eq_def]
      refine .bind (hoperator ts a ha) fun us r hr => ?_
      cases r with
      | none => exact .pure (by rwa [List.append_nil])
      | some combine =>
        refine .bind hr fun vs b hb => ?_
        refine (ih _ _ hb).mono fun ws c hc => ?_
        simpa only [List.append_assoc] using hc
  exact .bind hoperand fun ts a ha => hlinks maxNesting ts a ha

end Takes

/-! ## Whole texts -/

theorem parseText_eq_ok {p : Parser α} {text : String} {a : α} (h : parseText p text = .ok a) :
    ∃ input rest, scan text = .ok input ∧ p input = .ok (a, rest) := by
  unfold parseText at h
  cases hscan : scan text with
  | error e =>
    rw [hscan] at h
    cases h
  | ok input =>
    rw [hscan] at h
    change (p input >>= _) = _ at h
    cases hrun : p input with
    | error e =>
      rw [hrun] at h
      cases h
    | ok r =>
      obtain ⟨a', ⟨_ | ⟨t, tokens⟩, finish⟩⟩ := r
      · rw [hrun] at h
        cases h
        exact ⟨input, _, rfl, hrun⟩
      · rw [hrun] at h
        cases h

/-- A text is rejected by the scanner, by the parser, or because it goes on. -/
theorem parseText_eq_error {p : Parser α} {text : String} {e : ParseError}
    (h : parseText p text = .error e) :
    scan text = .error e ∨ ∃ input, scan text = .ok input ∧
      (p input = .error e ∨ ∃ a t tokens finish, p input = .ok (a, ⟨t :: tokens, finish⟩) ∧
        e = ⟨.unexpected "end of input" t.lexeme, t.pos⟩) := by
  unfold parseText at h
  cases hscan : scan text with
  | error e' =>
    rw [hscan] at h
    cases h
    exact .inl rfl
  | ok input =>
    rw [hscan] at h
    change (p input >>= _) = _ at h
    refine .inr ⟨input, rfl, ?_⟩
    cases hrun : p input with
    | error e' =>
      rw [hrun] at h
      cases h
      exact .inl rfl
    | ok r =>
      obtain ⟨a, ⟨_ | ⟨t, tokens⟩, finish⟩⟩ := r
      · rw [hrun] at h
        cases h
      · rw [hrun] at h
        cases h
        exact .inr ⟨a, t, tokens, finish, rfl, rfl⟩

end Skirmish.Script.Parser
