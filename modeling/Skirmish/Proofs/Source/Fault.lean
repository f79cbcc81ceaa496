import Skirmish.Proofs.Joining.Tracking

/-!
# What parse errors are about

A fault that names a token is found at that token, and one that names none is found at any token or
where no token is left (`Fault.About`). A parser that fails has found its fault somewhere in its own
input (`Blames`). The rules below follow the ways in which parsers are put together; they keep an
input `start` in mind, since positions are remembered while tokens are taken and tokens are given
back.
-/

namespace Skirmish.Script

/-- A fault fits the token at which it is found, or the end of the input. -/
inductive Fault.About : Fault → Option Lexeme → Prop
  | unexpected (what : String) (found : Option Lexeme) : About (.unexpected what found) found
  | unknownStatement (w : String) : About (.unknownStatement w) (some (.word w))
  | unknownSection (w : String) : About (.unknownSection w) (some (.word w))
  | duplicateSection (w : String) : About (.duplicateSection w) (some (.word w))
  | duplicateSkill (name : String) : About (.duplicateSkill name) (some (.text name))
  | invalidName (w what : String) : About (.invalidName w what) (some (.word w))
  | negativeMeta (w : String) : About (.negativeMeta w) (some (.word w))
  | nestedMeta (w : String) : About (.nestedMeta w) (some (.word w))
  | invalidPool (w : String) : About (.invalidPool w) (some (.word w))
  | coordinateRange : About .coordinateRange (some (.symbol .lparen))
  | tooDeep (next : Option Lexeme) : About .tooDeep next
  | chainTooLong (next : Option Lexeme) : About .chainTooLong next

namespace TokenList

/-- The next token, if one is left. -/
def next? (input : TokenList) : Option Lexeme := input.tokens.head?.map Token.lexeme

/-- The position of the next token, or of the end. -/
def place (input : TokenList) : Pos := (input.tokens.head?.map Token.pos).getD input.finish

/-- Tokens have been taken off the front of an input. -/
structure LeftOf (left input : TokenList) : Prop where
  suffix : left.tokens <:+ input.tokens
  finish : left.finish = input.finish

theorem LeftOf.refl (input : TokenList) : input.LeftOf input := ⟨List.suffix_refl _, rfl⟩

theorem LeftOf.tail {input start : TokenList} {t : Token} {tokens : List Token}
    (h : input.LeftOf start) (htokens : input.tokens = t :: tokens) :
    (⟨tokens, input.finish⟩ : TokenList).LeftOf start :=
  ⟨(htokens ▸ List.suffix_cons t tokens).trans h.suffix, h.finish⟩

end TokenList

/-- An error is found at the next token of an input, or at its end if no token is left. -/
structure ParseError.FoundAt (e : ParseError) (input : TokenList) : Prop where
  pos : e.pos = input.place
  about : e.fault.About input.next?

theorem word?_eq_some {l : Lexeme} {w : String} (h : Parser.word? l = some w) : l = .word w := by
  cases l with
  | word => exact congrArg Lexeme.word (Option.some.inj h)
  | _ => cases h

theorem text?_eq_some {l : Lexeme} {s : String} (h : Parser.text? l = some s) : l = .text s := by
  cases l with
  | text => exact congrArg Lexeme.text (Option.some.inj h)
  | _ => cases h

namespace Parser

variable {α β γ σ : Type}

/-- On an input, what `p` leaves is left of `start`, and where it fails, it has found its fault in
what is left of `start` somewhere. -/
structure BlamesAt (start : TokenList) (p : Parser α) (input : TokenList) : Prop where
  ok : ∀ {a left}, p input = .ok (a, left) → left.LeftOf start
  error : ∀ {e}, p input = .error e → ∃ place : TokenList, place.LeftOf start ∧ e.FoundAt place

/-- Where `p` fails, it has found its fault in its input. -/
def Blames (p : Parser α) : Prop :=
  ∀ ⦃start input : TokenList⦄, input.LeftOf start → BlamesAt start p input

namespace BlamesAt

variable {start input input' : TokenList} {p : Parser α} {q : Parser α} {k : α → Parser β} {l : Lexeme}

/-- What does the same blames the same. -/
theorem of_eq (hq : BlamesAt start q input') (h : p input = q input') : BlamesAt start p input where
  ok hrun := hq.ok (h ▸ hrun)
  error hrun := hq.error (h ▸ hrun)

theorem pure {a : α} (h : input.LeftOf start) : BlamesAt start (Pure.pure a) input where
  ok hrun := by
    cases hrun
    exact h
  error := nofun

theorem bind (hp : BlamesAt start p input)
    (hk : ∀ a left, p input = .ok (a, left) → left.LeftOf start → BlamesAt start (k a) left) :
    BlamesAt start (p >>= k) input := by
  cases hrun : p input with
  | ok r =>
    obtain ⟨a, left⟩ := r
    exact .of_eq (hk a left hrun (hp.ok hrun)) (bind_of_ok hrun)
  | error e =>
    refine ⟨fun h => ?_, fun h => ?_⟩
    · rw [bind_of_error hrun] at h
      cases h
    · rw [bind_of_error hrun] at h
      cases h
      exact hp.error hrun

/-! ### Faults -/

/-- A fault at a token that has been looked at before. -/
theorem failAt {place : TokenList} {fault : Fault} (hplace : place.LeftOf start)
    (h : fault.About place.next?) : BlamesAt start (failAt place.place fault : Parser α) input where
  ok := nofun
  error hrun := by
    cases hrun
    exact ⟨place, hplace, rfl, h⟩

theorem fail {fault : Fault} (hinput : input.LeftOf start) (h : fault.About input.next?) :
    BlamesAt start (fail fault : Parser α) input := by
  have hfail : BlamesAt start (Parser.failAt input.place fault : Parser α) input := failAt hinput h
  exact .of_eq hfail rfl

theorem unexpected (what : String) (hinput : input.LeftOf start) :
    BlamesAt start (unexpected what : Parser α) input :=
  .of_eq (fail hinput (.unexpected what _)) rfl

/-! ### The next token -/

theorem here {k : Pos → Parser α} (hk : BlamesAt start (k input.place) input) :
    BlamesAt start (Parser.here >>= k) input := .of_eq hk rfl

theorem peek? {k : Option Lexeme → Parser α} (hk : BlamesAt start (k input.next?) input) :
    BlamesAt start (Parser.peek? >>= k) input := .of_eq hk rfl

theorem take? {g : Lexeme → Option γ} {k : Option γ → Parser α} (hinput : input.LeftOf start)
    (hsome : ∀ c l tail, input.next? = some l → g l = some c → tail.LeftOf start →
      BlamesAt start (k (some c)) tail)
    (hnone : BlamesAt start (k none) input) : BlamesAt start (Parser.take? g >>= k) input := by
  obtain ⟨_ | ⟨t, tokens⟩, finish⟩ := input
  · exact .of_eq hnone rfl
  · cases hg : g t.lexeme with
    | some c => exact .of_eq (hsome c _ _ rfl hg (hinput.tail rfl)) (bind_take?_some hg finish)
    | none => exact .of_eq hnone (bind_take?_none hg finish)

theorem eat {k : Bool → Parser α} (hinput : input.LeftOf start)
    (htrue : ∀ tail, tail.LeftOf start → BlamesAt start (k true) tail)
    (hfalse : input.next? ≠ some l → BlamesAt start (k false) input) :
    BlamesAt start (Parser.eat l >>= k) input := by
  by_cases h : input.next? = some l
  · obtain ⟨_ | ⟨t, tokens⟩, finish⟩ := input
    · cases h
    · exact .of_eq (htrue _ (hinput.tail rfl)) (bind_eat_self (Option.some.inj h))
  · exact .of_eq (hfalse h) (bind_eat_none h)

theorem take {g : Lexeme → Option γ} {what : String} {k : γ → Parser α} (hinput : input.LeftOf start)
    (hk : ∀ c l tail, input.next? = some l → g l = some c → tail.LeftOf start →
      BlamesAt start (k c) tail) : BlamesAt start (Parser.take what g >>= k) input := by
  have htake : Parser.take what g >>= k =
      Parser.take? g >>= fun r => r.elim (Parser.unexpected what) k := by
    unfold Parser.take
    rw [bind_assoc]
    refine bind_congr fun r => ?_
    cases r with
    | none => rfl
    | some c => exact pure_bind c k
  rw [htake]
  exact take? hinput hk (unexpected what hinput)

end BlamesAt

namespace Blames

variable {p : Parser α} {k : α → Parser β}

theorem pure (a : α) : Blames (Pure.pure a) := fun _ _ h => .pure h

theorem bind (hp : Blames p) (hk : ∀ a, Blames (k a)) : Blames (p >>= k) := fun _ _ h =>
  (hp h).bind fun a _ _ hleft => hk a hleft

theorem map {f : α → β} (hp : Blames p) : Blames (f <$> p) := hp.bind fun a => pure (f a)

/-- A fault that may be found anywhere. -/
theorem fail {fault : Fault} (h : ∀ next, fault.About next) : Blames (fail fault : Parser α) :=
  fun _ _ hinput => .fail hinput (h _)

theorem unexpected (what : String) : Blames (unexpected what : Parser α) := fun _ _ h => .unexpected what h

theorem peek? : Blames peek? := fun _ input h => .of_eq (.pure (a := input.next?) h) rfl

theorem here {k : Pos → Parser α} (hk : ∀ pos, Blames (k pos)) : Blames (Parser.here >>= k) :=
  fun _ _ h => .here (hk _ h)

theorem skip : Blames skip := by
  intro start input h
  obtain ⟨_ | ⟨t, tokens⟩, finish⟩ := input
  · exact .of_eq (.pure (a := ()) h) rfl
  · exact .of_eq (.pure (a := ()) (h.tail rfl)) rfl

theorem skipAll (passes : Lexeme → Bool) : Blames (skipAll passes) := by
  intro start input h
  have hleft : (⟨input.tokens.dropWhile fun t => passes t.lexeme, input.finish⟩ : TokenList).LeftOf
      start := ⟨(List.dropWhile_suffix _).trans h.suffix, h.finish⟩
  exact .of_eq (.pure (a := ()) hleft) rfl

theorem take? (g : Lexeme → Option α) : Blames (take? g) := by
  rw [← bind_pure (Parser.take? g)]
  exact fun _ _ h => .take? h (fun _ _ _ _ _ htail => .pure htail) (.pure h)

theorem take (what : String) (g : Lexeme → Option α) : Blames (take what g) := by
  rw [← bind_pure (Parser.take what g)]
  exact fun _ _ h => .take h fun _ _ _ _ _ htail => .pure htail

theorem eat (l : Lexeme) : Blames (eat l) := by
  rw [← bind_pure (Parser.eat l)]
  exact fun _ _ h => .eat h (fun _ htail => .pure htail) fun _ => .pure h

theorem expect (l : Lexeme) (what : String) : Blames (expect l what) := by
  refine bind (eat l) fun b => ?_
  split
  · exact unexpected what
  · exact pure ()

theorem attempt {p : Parser (Option α)} (hp : Blames p) : Blames (attempt p) := by
  intro start input h
  cases hrun : p input with
  | error e =>
    refine .of_eq (.pure (a := none) h) ?_
    rw [Parser.attempt, hrun]
    rfl
  | ok r =>
    obtain ⟨_ | a, left⟩ := r
    · refine .of_eq (.pure (a := none) h) ?_
      rw [Parser.attempt, hrun]
      rfl
    · refine .of_eq (.pure (a := some a) ((hp h).ok hrun)) ?_
      rw [Parser.attempt, hrun]
      rfl

/-! ### Repetition -/

theorem steps {step : σ → Parser (Option σ)} (hstep : ∀ s, Blames (step s)) (s : σ) :
    Blames (steps step s) := by
  have hwithin : ∀ n s, Blames (stepsWithin step n s) := by
    intro n
    induction n with
    | zero => exact fun s => pure s
    | succ n ih =>
      intro s
      refine bind (hstep s) fun r => ?_
      cases r with
      | none => exact pure s
      | some next => exact ih next
  exact fun _ _ h => .of_eq (hwithin _ s h) rfl

theorem many {item : Parser (Option α)} (hitem : Blames item) : Blames (many item) :=
  map (steps (fun _ => map hitem) [])

theorem chain {operator : Parser (Option (α → α → α))} {operand : Parser α}
    (hoperator : Blames operator) (hoperand : Blames operand) : Blames (chain operator operand) := by
  have hlinks : ∀ left a, Blames (links operator operand left a) := by
    intro left
    induction left with
    | zero =>
      intro a
      rw [links.eq_def]
      refine bind hoperator fun r => ?_
      cases r with
      | none => exact pure a
      | some combine => exact fail .chainTooLong
    | succ left ih =>
      intro a
      rw [links.eq_def]
      refine bind hoperator fun r => ?_
      cases r with
      | none => exact pure a
      | some combine => exact bind hoperand fun b => ih _
  exact bind hoperand fun a => hlinks maxNesting a

/-- A word is taken and its name is found to be wrong afterwards. -/
theorem here_take {g : Lexeme → Option γ} {what : String} {k : Pos → γ → Parser α}
    (hk : ∀ ⦃start place tail : TokenList⦄ ⦃c : γ⦄ ⦃l : Lexeme⦄, place.LeftOf start →
      place.next? = some l → g l = some c → tail.LeftOf start →
        BlamesAt start (k place.place c) tail) :
    Blames (Parser.here >>= fun pos => Parser.take what g >>= k pos) := fun _ _ h =>
  .here (.take h fun _ _ _ hnext hg htail => hk h hnext hg htail)

end Blames

end Parser

end Skirmish.Script
