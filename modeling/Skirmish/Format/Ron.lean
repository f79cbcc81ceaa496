import Skirmish.Format.Reader
import Skirmish.Number.Decimal
import Skirmish.Text.Identifier

/-!
# RON

Reads values in RON, an object notation: numbers, strings, options, lists, maps, and groups in
parentheses, whose members have names or not and which may have a name in front. Numbers keep their
text, because only their use tells how they are meant. A header may change some rules of notation.
-/

namespace Skirmish.Format

inductive Ron where
  /-- A number as it is written. -/
  | number (text : List Char)
  | text (s : String)
  | bytes (bs : List UInt8)
  | character (c : Char)
  | boolean (b : Bool)
  | option (value : Option Ron)
  /-- A name that stands alone. -/
  | word (w : String)
  | list (items : List Ron)
  | map (entries : List (Ron × Ron))
  | tuple (name : Option String) (items : List Ron)
  | record (name : Option String) (fields : List (String × Ron))

/-- What a header switches on. -/
structure RonFreedoms where
  /-- Structures must be named. -/
  structNames : Bool := false
  /-- The only member of a variant stands without its own parentheses. -/
  bareVariants : Bool := false
  /-- The value of an option may stand without parentheses. -/
  bareOptions : Bool := false
  deriving DecidableEq

namespace Ron

open Reader

/-! ## Blanks and comments -/

/-- Whether a character is a blank. -/
def isBlank (c : Char) : Bool :=
  let n := c.toNat
  (0x09 ≤ n && n ≤ 0x0D) || n = 0x20 || n = 0x85 || n = 0x200E || n = 0x200F || n = 0x2028 ||
    n = 0x2029

/-- What follows a comment of several lines; comments nest. -/
def afterComment : Nat → List Char → Option (List Char)
  | depth, '/' :: '*' :: rest => afterComment (depth + 1) rest
  | depth, '*' :: '/' :: rest =>
    match depth with
    | 0 => some rest
    | depth + 1 => afterComment depth rest
  | depth, _ :: rest => afterComment depth rest
  | _, [] => none

/-- Passes over blanks or over one comment, if there are any. -/
def blankPiece (_ : Unit) : Reader (Option Unit) := do
  let _ ← takeWhile isBlank
  if ← eat "//" then
    let _ ← takeWhile (· ≠ '\n')
    return some ()
  else if ← eat "/*" then
    match afterComment 0 (← get) with
    | some rest => set rest; return some ()
    | none => failure
  else return none

def gap : Reader Unit := steps blankPiece ()

/-! ## Names -/

/-- Whether a name may begin with a character. -/
def beginsName (c : Char) : Bool := Text.beginsIdentifier c || c = '_'

/-- Whether a raw name may have a character. -/
def inRawName (c : Char) : Bool := Text.continuesIdentifier c || c = '.' || c = '+' || c = '-'

/-- The beginnings of strings that look like names. -/
def stringStarts : List String := ["r\"", "r#\"", "r##", "b\"", "b'", "br\"", "br#"]

/-- A name. A raw name has `r#` in front and may have more characters. -/
def name : Reader String := do
  let input ← get
  if stringStarts.any fun s => s.toList.isPrefixOf input then failure
  else if ← eat "r#" then
    match ← takeWhile inRawName with
    | [] => failure
    | cs => return String.ofList cs
  else if !input.head?.any beginsName then failure
  else
    let cs ← takeWhile Text.continuesIdentifier
    if (← peek?).any inRawName then failure else return String.ofList cs

/-- Takes a word if it is next and is not the beginning of a longer name. -/
def eatWord (w : String) : Reader Bool := do
  let input ← get
  let rest := input.drop w.length
  if w.toList.isPrefixOf input ∧ !rest.head?.any Text.continuesIdentifier then
    set rest
    return true
  else return false

/-! ## Strings -/

/-- Up to six hexadecimal digits in braces. -/
def bracedCode : Reader Char := do
  expect "\x7b"
  let digits ← takeWhile fun c => (hexDigit? c).isSome
  expect "\x7d"
  if digits.isEmpty ∨ 6 < digits.length then failure
  else
    match (ofDigits? 16 digits).bind ofCode? with
    | some c => return c
    | none => failure

/-- The byte that two hexadecimal digits spell. -/
def byte : Reader UInt8 := do
  match ofDigits? 16 (← exactly 2 fun c => (hexDigit? c).isSome) with
  | some n => return .ofNat n
  | none => failure

/-- The byte or the character that an escape stands for, after its backslash. -/
def escape : Reader (UInt8 ⊕ Char) := do
  match ← next with
  | '\'' => return .inl 0x27
  | '"' => return .inl 0x22
  | '\\' => return .inl 0x5C
  | 'n' => return .inl 0x0A
  | 'r' => return .inl 0x0D
  | 't' => return .inl 0x09
  | '0' => return .inl 0
  | 'x' => return .inl (← byte)
  | 'u' => return .inr (← bracedCode)
  | _ => failure

/-- The character that bytes spell in UTF-8. While they spell none, escapes may give some more. -/
def spelledOut : Nat → List UInt8 → Reader Char
  | more, bs => do
    match (String.fromUTF8? ⟨bs.toArray⟩).bind (·.toList.head?), more with
    | some c, _ => return c
    | none, 0 => failure
    | none, more + 1 =>
      expect "\\x"
      spelledOut more (bs ++ [← byte])

/-- An escaped character, after its backslash, which at most `more` further escapes complete. -/
def escapedCharacter (more : Nat) : Reader Char := do
  match ← escape with
  | .inl b => spelledOut more [b]
  | .inr c => return c

/-- The items of a string up to its closing quote. -/
def quoted {α : Type} (escaped : Reader α) (plain : Char → α) : Reader (List α) :=
  many do
    match ← next with
    | '"' => return none
    | '\\' => return some (← escaped)
    | c => return some (plain c)

/-- A string, after its opening quote. -/
def stringTail : Reader String := do
  return String.ofList (← quoted (escapedCharacter 3) id)

/-- A string of bytes, after its opening quote. -/
def bytesTail : Reader (List UInt8) := do
  let escaped : Reader (List UInt8) := do
    match ← escape with
    | .inl b => return [b]
    | .inr c => return String.utf8EncodeChar c
  return (← quoted escaped String.utf8EncodeChar).flatten

/-- A raw string, after its letter. It ends at a quote with as many signs behind it as in front. -/
def rawTail : Reader String := do
  let signs ← takeWhile (· = '#')
  expect "\""
  let close := String.ofList ('"' :: signs)
  let cs ← many do if ← eat close then return none else return some (← next)
  return String.ofList cs

/-- A single character, after its opening quote. -/
def characterTail : Reader Char := do
  let c ← match ← next with
    | '\\' => escapedCharacter 0
    | c => pure c
  expect "'"
  return c

/-- A single byte, after its opening quote: a number of the type of bytes. -/
def byteTail : Reader Ron := do
  let b ← match ← next with
    | '\\' => do
      match ← escape with
      | .inl b => pure b.toNat
      | .inr _ => failure
    | c => if c.toNat < 0x80 then pure c.toNat else failure
  expect "'"
  return .number (Nat.toDigits 10 b ++ "u8".toList)

/-- A string, character or byte, if one is next. A letter in front marks bytes or rawness. -/
def string? : Reader (Option Ron) := do
  if ← eat "\"" then return some (.text (← stringTail))
  else if ← eat "'" then return some (.character (← characterTail))
  else if ← eat "b'" then return some (← byteTail)
  else if ← eat "b\"" then return some (.bytes (← bytesTail))
  else
    let input ← get
    if !stringStarts.any fun s => s.toList.isPrefixOf input then return none
    else if ← eat "b" then
      expect "r"
      return some (.bytes (← rawTail).toUTF8.toList)
    else
      expect "r"
      return some (.text (← rawTail))

/-! ## Numbers -/

/-- A type of integers: its name and its bounds. -/
structure IntegerType where
  name : String
  low : Int
  high : Int
  deriving DecidableEq

namespace IntegerType

def signed (bits : Nat) : IntegerType :=
  ⟨s!"i{bits}", -(1 <<< (bits - 1) : Nat), (1 <<< (bits - 1) : Nat) - 1⟩

def unsigned (bits : Nat) : IntegerType := ⟨s!"u{bits}", 0, (1 <<< bits : Nat) - 1⟩

/-- The types that a number may name at its end. -/
def all : List IntegerType := [8, 16, 32, 64].flatMap fun bits => [signed bits, unsigned bits]

def holds (t : IntegerType) (n : Int) : Bool := t.low ≤ n ∧ n ≤ t.high

end IntegerType

/-- The number that a whole number spells, and the type that it names. It may have a base in front
and underscores after its first digit. A type stands behind binary and decimal digits only. -/
def spelled? (cs : List Char) : Option (Int × Option IntegerType) :=
  let (negative, body) := Number.sign cs
  let inBase (base : Nat) (ds : List Char) : Option Int :=
    if ds.isEmpty ∨ ds.head? = some '_' then none
    else (ofDigits? base (ds.filter (· ≠ '_'))).map fun n => if negative then -n else n
  let typed (base : Nat) (ds : List Char) : Option (Int × Option IntegerType) :=
    match IntegerType.all.find? fun t => t.name.toList.isSuffixOf ds with
    | some t => (inBase base (ds.take (ds.length - t.name.length))).map (·, some t)
    | none => (inBase base ds).map (·, none)
  match body with
  | '0' :: 'x' :: ds => (inBase 16 ds).map (·, none)
  | '0' :: 'o' :: ds => (inBase 8 ds).map (·, none)
  | '0' :: 'b' :: ds => typed 2 ds
  | ds => typed 10 ds

/-- Whether a text is an integer of the type that it names, or of a type of 64 bits. -/
def isInteger (cs : List Char) : Bool :=
  match spelled? cs with
  | some (n, some t) => t.holds n
  | some (n, none) => (IntegerType.signed 64).holds n || (IntegerType.unsigned 64).holds n
  | none => false

/-- Whether underscores stand behind digits or exponents only. -/
def spacedWell (allowed : Bool) : List Char → Bool
  | [] => true
  | c :: cs =>
    if c = '_' then allowed && spacedWell allowed cs
    else if c = '.' then spacedWell false cs
    else if c.isDigit || c = 'e' || c = 'E' then spacedWell true cs
    else spacedWell allowed cs

/-- The double that a number spells, which may name one of some types at its end. -/
def real? (types : List String) (cs : List Char) : Option Float :=
  let cs :=
    match types.find? fun t => t.toList.isSuffixOf cs with
    | some t => cs.take (cs.length - t.length)
    | none => cs
  let body := (Number.sign cs).2
  let inNumber (c : Char) : Bool :=
    c.isDigit || c = 'e' || c = 'E' || c = '.' || c = '+' || c = '-' || c = '_'
  if body = "inf".toList ∨ body = "NaN".toList then Number.readFloat? cs
  else if cs.all inNumber ∧ spacedWell false cs then Number.readFloat? (cs.filter (· ≠ '_'))
  else none

/-- Whether a text is a number of some kind. A whole number that is too large for an integer is a
double. -/
def isNumber (cs : List Char) : Bool := isInteger cs || (real? ["f32", "f64"] cs).isSome

/-- Whether a number may begin with a character. -/
def beginsNumber (c : Char) : Bool := c.isDigit || c = '+' || c = '-' || c = '.'

/-- A number, as it is written. -/
def numberToken : Reader Ron := do
  let cs ← takeWhile fun c => c.isAlphanum || c = '_' || c = '.' || c = '+' || c = '-'
  if isNumber cs then return .number cs else failure

/-! ## Groups -/

/-- Items with commas between them up to a closing bracket; a comma may stand behind the last. -/
def commaList {α : Type} (close : String) (item : Reader α) : Reader (List α) := do
  let (items, closed) ← steps (fun (items, closed) => do
    if closed then return none
    gap
    if ← eat close then return some (items, true)
    let a ← item
    gap
    if ← eat close then return some (items ++ [a], true)
    expect ","
    return some (items ++ [a], false)) (([], false) : List α × Bool)
  if closed then return items else failure

/-- A member with its name. -/
def field (inner : Reader Ron) : Reader (String × Ron) := do
  let k ← name
  gap
  expect ":"
  gap
  return (k, ← inner)

/-- Whether the first member of a group has a name. -/
def isNamed : Reader Bool := do
  let start ← get
  gap
  let named ← attempt do
    let _ ← name
    gap
    expect ":"
  set start
  return named.isSome

/-- A group, after its opening parenthesis. -/
def group (label : Option String) (inner : Reader Ron) : Reader Ron := do
  if ← isNamed then return .record label (← commaList ")" (field inner))
  else return .tuple label (← commaList ")" inner)

/-- An entry of a map. -/
def pair (inner : Reader Ron) : Reader (Ron × Ron) := do
  let k ← inner
  gap
  expect ":"
  gap
  return (k, ← inner)

/-- The words that are numbers. -/
def numberWords : List String := ["inf", "inff32", "inff64", "NaN", "NaNf32", "NaNf64"]

/-- The value that a word stands for by itself, if one is next. -/
def literal? : Reader (Option Ron) := do
  if ← eatWord "true" then return some (.boolean true)
  else if ← eatWord "false" then return some (.boolean false)
  else if ← eatWord "None" then return some (.option none)
  else
    for w in numberWords do
      if ← eatWord w then return some (.number w.toList)
    return none

def plain : Reader Ron := do
  if ← eat "()" then return .tuple none []
  else if let some v ← literal? then return v
  else if ← eatWord "Some" then failure
  else if let some v ← string? then return v
  else if (← peek?).any beginsNumber then numberToken
  else return .word (← name)

/-- The value of an option, after its word. -/
def optionTail (f : RonFreedoms) (inner : Reader Ron) : Reader Ron := do
  gap
  if ← eat "(" then
    gap
    let v ← inner
    gap
    if ← eat "," then gap
    expect ")"
    return v
  else if f.bareOptions then inner
  else failure

/-- A value. The members of groups are read by `member`, and the value of an option by `inner`. -/
def value (f : RonFreedoms) (member inner : Reader Ron) : Reader Ron := do
  if ← eat "()" then return .tuple none []
  else if ← eat "(" then group none member
  else if ← eat "[" then return .list (← commaList "]" member)
  else if ← eat "\x7b" then return .map (← commaList "\x7d" (pair member))
  else if ← eatWord "Some" then return .option (some (← optionTail f inner))
  else
    match ← plain with
    | .word label =>
      let start ← get
      gap
      if ← eat "(" then group (some label) member
      else
        set start
        return .word label
    | v => return v

/-- The readers of a value that may go a number of steps deep, and of a member of a group whose
bracket was one step more. -/
def readersWithin (f : RonFreedoms) : Nat → Reader Ron × Reader Ron
  | 0 => (plain, failure)
  | steps + 1 =>
    let (whole, member) := readersWithin f steps
    (value f member whole, whole)

/-- How many steps deep a text may go: a bracket is one step, its members are another, and the value
of an option is one. -/
def maxSteps : Nat := 128

/-! ## Documents -/

/-- One freedom of a header. -/
def freedom (f : RonFreedoms) (s : String) : Option RonFreedoms :=
  match s with
  | "unwrap_newtypes" => some f
  | "implicit_some" => some { f with bareOptions := true }
  | "unwrap_variant_newtypes" => some { f with bareVariants := true }
  | "explicit_struct_names" => some { f with structNames := true }
  | _ => none

/-- A line of the header. -/
def headerLine (f : RonFreedoms) : Reader (Option RonFreedoms) := do
  gap
  if ← eat "#" then
    for part in ["!", "[", "enable", "("] do
      gap
      expect part
    let names ← commaList ")" name
    gap
    expect "]"
    match if names.isEmpty then none else names.foldlM freedom f with
    | some f => return some f
    | none => failure
  else return none

/-- Reads a text: what its header switches on, and its value. -/
def read (text : String) : Option (RonFreedoms × Ron) :=
  let document := do
    let f ← steps headerLine {}
    let v ← (readersWithin f maxSteps).1
    gap
    return (f, v)
  readAll document text

/-! ## What values mean -/

/-- An integer of a type; the number may name it. -/
def integer? (type : IntegerType) : Ron → Option Int
  | number cs => do
    let (n, t) ← spelled? cs
    if (t = none ∨ t = some type) ∧ type.holds n then some n else none
  | _ => none

def float? : Ron → Option Float
  | number cs => real? ["f64"] cs
  | _ => none

def boolean? : Ron → Option Bool
  | boolean b => some b
  | _ => none

def text? : Ron → Option String
  | text s => some s
  | _ => none

/-- A list of things. -/
def list? {α : Type} (item? : Ron → Option α) : Ron → Option (List α)
  | list items => items.mapM item?
  | _ => none

/-- A map from strings to things, in the order of the text. -/
def map? {α : Type} (item? : Ron → Option α) : Ron → Option (List (String × α))
  | map entries => entries.mapM fun e => do return (← text? e.1, ← item? e.2)
  | _ => none

/-- Fields among which no known name occurs twice. -/
def distinct? (known : List String) (fields : List (String × Ron)) :
    Option (List (String × Ron)) :=
  let names := (fields.map Prod.fst).filter known.contains
  if names.eraseDups.length = names.length then some fields else none

/-- The fields of a structure with a name and known fields. -/
def record? (f : RonFreedoms) (type : String) (known : List String) :
    Ron → Option (List (String × Ron))
  | record label fields =>
    if label = some type ∨ (label = none ∧ !f.structNames) then distinct? known fields else none
  | tuple label [] =>
    if label = some type ∨ (label = none ∧ !f.structNames) then some [] else none
  | _ => none

/-- A field that must be there. -/
def required? {α : Type} (read? : Ron → Option α) (fields : List (String × Ron)) (k : String) :
    Option α :=
  (fields.lookup k).bind read?

/-- A field that may be left out. -/
def optional? {α : Type} (read? : Ron → Option α) (absent : α) (fields : List (String × Ron))
    (k : String) : Option α :=
  match fields.lookup k with
  | some v => read? v
  | none => some absent

end Ron

end Skirmish.Format
