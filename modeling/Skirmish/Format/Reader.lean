/-!
# Readers

A reader reads from the front of a text and gives back what is left, or fails. A repetition has at
most one step more than there are characters, so every reader ends.
-/

namespace Skirmish.Format

abbrev Reader (α : Type) := StateT (List Char) Option α

namespace Reader

variable {α σ : Type}

def peek? : Reader (Option Char) := return (← get).head?

def next : Reader Char := do
  match ← get with
  | [] => failure
  | c :: rest => set rest; return c

/-- Takes a text if it is next. -/
def eat (s : String) : Reader Bool := do
  let input ← get
  if s.toList.isPrefixOf input then
    set (input.drop s.length)
    return true
  else return false

/-- Takes a text that has to be next. -/
def expect (s : String) : Reader Unit := do
  if !(← eat s) then failure

/-- Takes the characters up to the first that fails a test. -/
def takeWhile (test : Char → Bool) : Reader (List Char) := do
  let input ← get
  set (input.dropWhile test)
  return input.takeWhile test

/-- What `p` reads, or nothing, with no character taken, if it fails. -/
def attempt (p : Reader α) : Reader (Option α) := fun input =>
  match p input with
  | some (a, rest) => some (some a, rest)
  | none => some (none, input)

/-- Takes at most `n` steps from a state, until a step gives none. -/
def stepsWithin (step : σ → Reader (Option σ)) : Nat → σ → Reader σ
  | 0, s => return s
  | n + 1, s => do
    match ← step s with
    | none => return s
    | some next => stepsWithin step n next

/-- Takes steps from a state until a step gives none. Every step before that takes a character, so
their number is bounded by that of the characters. -/
def steps (step : σ → Reader (Option σ)) (s : σ) : Reader σ := do
  stepsWithin step ((← get).length + 1) s

/-- Reads one after the other until `item` gives none. -/
def many (item : Reader (Option α)) : Reader (List α) :=
  List.reverse <$> steps (fun items => (·.map (· :: items)) <$> item) []

/-- Reads exactly `n` characters that pass a test. -/
def exactly (n : Nat) (test : Char → Bool) : Reader (List Char) := do
  let cs := (← get).take n
  if cs.length = n ∧ cs.all test then
    modify (·.drop n)
    return cs
  else failure

def hexDigit? (c : Char) : Option Nat :=
  if c.isDigit then some (c.toNat - '0'.toNat)
  else if 'a' ≤ c ∧ c ≤ 'f' then some (c.toNat - 'a'.toNat + 10)
  else if 'A' ≤ c ∧ c ≤ 'F' then some (c.toNat - 'A'.toNat + 10)
  else none

/-- The number that digits of a base spell, if they are digits of that base. -/
def ofDigits? (base : Nat) (cs : List Char) : Option Nat :=
  cs.foldlM (fun n c => ((hexDigit? c).filter (· < base)).map (base * n + ·)) 0

def ofCode? (n : Nat) : Option Char :=
  if n.isValidChar then some (.ofNat n) else none

/-- The character whose code point is written with `n` hexadecimal digits. -/
def code (n : Nat) : Reader Char := do
  let cs ← exactly n fun c => (hexDigit? c).isSome
  match (ofDigits? 16 cs).bind ofCode? with
  | some c => return c
  | none => failure

/-- Reads a whole text. -/
def readAll (p : Reader α) (text : String) : Option α :=
  match p text.toList with
  | some (a, []) => some a
  | _ => none

end Reader

end Skirmish.Format
