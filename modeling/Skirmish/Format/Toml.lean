import Skirmish.Format.Reader
import Skirmish.Number.Decimal

/-!
# TOML

Reads TOML documents. A document is a table; headers and dotted keys reach into tables under it. A
key has one value, and a table is opened by one header, so a text that gives either twice is no
document. A number that is too large for its kind makes the whole text fail.
-/

namespace Skirmish.Format

inductive Toml where
  | text (s : String)
  | integer (n : Int)
  | float (x : Float)
  | boolean (b : Bool)
  /-- A date, a time, or both. -/
  | moment (text : String)
  | list (items : List Toml)
  | table (entries : List (String × Toml))

namespace Toml

open Reader

/-! ## Blanks and comments -/

/-- Whether a character may stand in a comment or a literal string. -/
def isPlain (c : Char) : Bool := c = '\t' || (0x20 ≤ c.toNat && c.toNat ≠ 0x7F)

/-- Passes over blanks within a line. -/
def blanks : Reader Unit := do
  let _ ← takeWhile fun c => c = ' ' || c = '\t'

/-- Takes the end of a line if it is next. -/
def lineEnd : Reader Bool := do
  if ← eat "\n" then return true else eat "\r\n"

/-- Passes over blanks and a comment. -/
def comment : Reader Unit := do
  blanks
  if ← eat "#" then
    let _ ← takeWhile isPlain

/-- Passes over blanks, comments and ends of lines. -/
def gap : Reader Unit :=
  steps (fun _ => do
    comment
    return if ← lineEnd then some () else none) ()

/-! ## Strings -/

/-- The character that an escape stands for, after its backslash. -/
def escape : Reader Char := do
  match ← next with
  | 'b' => return '\x08'
  | 't' => return '\t'
  | 'n' => return '\n'
  | 'f' => return '\x0c'
  | 'r' => return '\r'
  | 'e' => return '\x1b'
  | '"' => return '"'
  | '\\' => return '\\'
  | 'x' => code 2
  | 'u' => code 4
  | 'U' => code 8
  | _ => failure

/-- A string in one line, after its opening quote. -/
def shortString (quote : Char) : Reader String := do
  let cs ← many do
    match ← next with
    | '\\' => if quote = '"' then return some (← escape) else return some '\\'
    | c => if c = quote then return none else if isPlain c then return some c else failure
  return String.ofList cs

/-- A backslash at the end of a line, after the backslash: takes all blanks and ends of lines. -/
def continuation : Reader Unit := do
  blanks
  if ← lineEnd then
    steps (fun _ => do
      blanks
      return if ← lineEnd then some () else none) ()
  else failure

/-- A piece of a string in several lines; none at its closing quotes. -/
def longPiece (quote : Char) : Reader (Option (List Char)) := do
  if ← lineEnd then return some ['\n']
  else
    let c ← next
    if c = quote then return some (quote :: (← takeWhile (· = quote)))
    else if c = '\\' ∧ quote = '"' then
      match ← attempt continuation with
      | some _ => return some []
      | none => return some [← escape]
    else if isPlain c then return some [c]
    else failure

/-- A string in several lines, after its opening quotes. Up to two quotes may stand before the
closing ones. -/
def longString (quote : Char) : Reader String := do
  let _ ← lineEnd
  let closes (piece : List Char) : Bool := 3 ≤ piece.length && piece.all (· = quote)
  let (cs, closed) ← steps (fun (cs, closed) => do
    if closed then return none
    match ← longPiece quote with
    | none => return none
    | some piece =>
      if !closes piece then return some (cs ++ piece, false)
      else if piece.length ≤ 5 then return some (cs ++ piece.drop 3, true)
      else failure) (([], false) : List Char × Bool)
  if closed then return String.ofList cs else failure

/-- A string, if one is next. -/
def string? : Reader (Option String) := do
  if ← eat "\"\"\"" then return some (← longString '"')
  else if ← eat "'''" then return some (← longString '\'')
  else if ← eat "\"" then return some (← shortString '"')
  else if ← eat "'" then return some (← shortString '\'')
  else return none

/-! ## Keys -/

/-- Whether a character may stand in a key without quotes. -/
def isKeyChar (c : Char) : Bool := c.isAlphanum || c = '_' || c = '-'

/-- A part of a key. -/
def keyPart : Reader String := do
  if ← eat "\"" then shortString '"'
  else if ← eat "'" then shortString '\''
  else
    match ← takeWhile isKeyChar with
    | [] => failure
    | cs => return String.ofList cs

/-- How deeply values may be nested, and how many parts a key may have. -/
def maxDepth : Nat := 80

/-- A key: parts with points between them. -/
def key : Reader (List String) := do
  blanks
  let first ← keyPart
  let rest ← many do
    blanks
    if ← eat "." then
      blanks
      return some (← keyPart)
    else return none
  if rest.length < maxDepth then return first :: rest else failure

/-! ## Numbers -/

/-- Whether a text consists of digits, with single underscores between them. -/
def digitRun (isDigit : Char → Bool) : List Char → Bool
  | [] => false
  | [c] => isDigit c
  | c :: '_' :: rest => isDigit c && digitRun isDigit rest
  | c :: rest => isDigit c && digitRun isDigit rest

/-- Whether a text is a whole number without a sign and without needless zeros. -/
def isWhole (cs : List Char) : Bool :=
  digitRun Char.isDigit cs && (cs.length = 1 || cs.head? ≠ some '0')

/-- An integer, if it is not too large by far. -/
def integer? (cs : List Char) : Option Int :=
  let inBase (base : Nat) (ds : List Char) : Option Int :=
    if digitRun (fun c => (hexDigit? c).any (· < base)) ds then
      (ofDigits? base (ds.filter (· ≠ '_'))).map Int.ofNat
    else none
  let n? :=
    match cs with
    | '0' :: 'x' :: ds => inBase 16 ds
    | '0' :: 'o' :: ds => inBase 8 ds
    | '0' :: 'b' :: ds => inBase 2 ds
    | cs => if isWhole (Number.sign cs).2 then Number.int? (cs.filter (· ≠ '_')) else none
  n?.filter fun n => -(1 <<< 127 : Nat) ≤ n ∧ n < (1 <<< 128 : Nat)

/-- Whether a text is an exponent with its letter. -/
def isExponent : List Char → Bool
  | e :: cs => (e = 'e' || e = 'E') && digitRun Char.isDigit (Number.sign cs).2
  | [] => false

/-- Whether a text is a number with a fraction, an exponent or both, without a sign. -/
def isFractional (cs : List Char) : Bool :=
  let inPlace (c : Char) : Bool := c.isDigit || c = '_'
  isWhole (cs.takeWhile inPlace) &&
    match cs.dropWhile inPlace with
    | '.' :: rest =>
      let more := rest.dropWhile inPlace
      digitRun Char.isDigit (rest.takeWhile inPlace) && (more.isEmpty || isExponent more)
    | rest => isExponent rest

/-- A float. The words for infinity and for not a number may have a sign. -/
def float? (cs : List Char) : Option Float :=
  let body := (Number.sign cs).2
  if body = "inf".toList ∨ body = "nan".toList then Number.readFloat? cs
  else if isFractional body then
    (Number.readFloat? (cs.filter (· ≠ '_'))).filter Float.isFinite
  else none

/-! ## Dates and times -/

/-- The number that a text of `n` digits spells. -/
def fixed? (n : Nat) (cs : List Char) : Option Nat :=
  if cs.length = n ∧ cs.all Char.isDigit then some (Number.ofDigits cs) else none

def daysIn (year month : Nat) : Nat :=
  if month = 2 then if year % 4 = 0 ∧ (year % 100 ≠ 0 ∨ year % 400 = 0) then 29 else 28
  else if month = 4 ∨ month = 6 ∨ month = 9 ∨ month = 11 then 30
  else 31

/-- Whether a text is a date. -/
def isDate (cs : List Char) : Bool :=
  match fixed? 4 (cs.take 4), fixed? 2 ((cs.drop 5).take 2), fixed? 2 (cs.drop 8) with
  | some year, some month, some day =>
    cs[4]? = some '-' && cs[7]? = some '-' && 1 ≤ month && month ≤ 12 && 1 ≤ day &&
      day ≤ daysIn year month
  | _, _, _ => false

/-- Whether a text is hours and minutes. -/
def isClock (cs : List Char) : Bool :=
  (fixed? 2 (cs.take 2)).any (· ≤ 23) && cs[2]? = some ':' && (fixed? 2 (cs.drop 3)).any (· ≤ 59)

/-- Whether a text is seconds behind a time, or empty. -/
def isSeconds : List Char → Bool
  | [] => true
  | ':' :: cs =>
    (fixed? 2 (cs.take 2)).any (· ≤ 60) &&
      match cs.drop 2 with
      | [] => true
      | '.' :: places => !places.isEmpty && places.all Char.isDigit
      | _ => false
  | _ => false

def isTime (cs : List Char) : Bool := isClock (cs.take 5) && isSeconds (cs.drop 5)

/-- Whether a text is a time of a day with a time zone behind it, or without one. -/
def isZonedTime (cs : List Char) : Bool :=
  let inTime (c : Char) : Bool := c.isDigit || c = ':' || c = '.'
  isTime (cs.takeWhile inTime) &&
    match cs.dropWhile inTime with
    | [] | ['Z'] | ['z'] => true
    | c :: rest => (c = '+' || c = '-') && isClock rest

/-- Whether a text is a date, a time, or a date with a time. -/
def isMoment (cs : List Char) : Bool :=
  isTime cs ||
    isDate (cs.take 10) &&
      match cs.drop 10 with
      | [] => true
      | c :: rest => (c = 'T' || c = 't' || c = ' ') && isZonedTime rest

/-! ## Values -/

/-- The value that a text without quotes stands for. -/
def bare? (cs : List Char) : Option Toml :=
  if cs = "true".toList then some (.boolean true)
  else if cs = "false".toList then some (.boolean false)
  else if isMoment cs then some (.moment (String.ofList cs))
  else (integer? cs).map .integer <|> (float? cs).map .float

/-- Whether a character may stand in a value without quotes. -/
def isBareChar (c : Char) : Bool := isKeyChar c || c = '+' || c = '.' || c = ':'

/-- The time that stands behind a date and a blank, with the blank. -/
def timeBehind (date : List Char) : Reader (List Char) := do
  match ← get with
  | ' ' :: c :: _ =>
    if isDate date ∧ c.isDigit then
      let _ ← next
      return ' ' :: (← takeWhile isBareChar)
    else return []
  | _ => return []

/-- A value without quotes. -/
def bare : Reader Toml := do
  let first ← takeWhile isBareChar
  match bare? (first ++ (← timeBehind first)) with
  | some v => return v
  | none => failure

/-- Items with commas between them up to a closing bracket; a comma may stand behind the last. -/
def commaList {α : Type} (close : String) (item : Reader α) : Reader (List α) := do
  let (items, closed) ← steps (fun (items, closed) => do
    if closed then return none
    gap
    if ← eat close then return some (items, true)
    let a ← item
    gap
    if ← eat close then return some (items ++ [a], true)
    expect ","
    return some (items ++ [a], false)) (([], false) : List α × Bool)
  if closed then return items else failure

/-! ## Tables under construction -/

/-- How a table came to be. -/
inductive Origin where
  /-- By a header that reaches through it. -/
  | implied
  /-- By a header of its own. -/
  | header
  /-- By a dotted key. -/
  | dotted
  deriving DecidableEq

/-- What stands under a key of a document that is being read. -/
inductive Node where
  | value (v : Toml)
  | table (origin : Origin) (entries : List (String × Node))
  | tables (items : List (List (String × Node)))

/-- The entries of a table under construction. -/
abbrev Entries := List (String × Node)

def find? (es : Entries) (k : String) : Option Node := (es.find? fun e => e.1 == k).map Prod.snd

/-- The entries with a node put under a key. -/
def put (es : Entries) (k : String) (n : Node) : Entries :=
  if (find? es k).isSome then es.map fun e => if e.1 == k then (k, n) else e
  else es ++ [(k, n)]

/-- Changes the table that a path leads to. Tables on the way are made where they are missing, and a
list of tables is entered by its last. A dotted key reaches into no table with a header, and the
table where it ends is one that dotted keys have made. -/
def within (isDotted : Bool) (f : Entries → Option Entries) : List String → Entries → Option Entries
  | [], es => f es
  | k :: rest, es =>
    match find? es k with
    | none => do
      let origin : Origin := if isDotted then .dotted else .implied
      return put es k (.table origin (← within isDotted f rest []))
    | some (.table origin sub) =>
      if isDotted ∧ (origin = .header ∨ (rest = [] ∧ origin = .implied)) then none
      else do return put es k (.table origin (← within isDotted f rest sub))
    | some (.tables items) =>
      if isDotted ∧ rest = [] then none
      else do
        let last ← items.getLast?
        return put es k (.tables (items.dropLast ++ [← within isDotted f rest last]))
    | some (.value _) => none

/-- Puts a value under a key that has none. -/
def define (k : String) (v : Toml) (es : Entries) : Option Entries :=
  if (find? es k).isSome then none else some (put es k (.value v))

/-- Puts a value under a dotted key. -/
def defineAt (path : List String) (v : Toml) (es : Entries) : Option Entries := do
  within true (define (← path.getLast?) v) path.dropLast es

/-- Opens a table by its header. -/
def openTable (k : String) (es : Entries) : Option Entries :=
  match find? es k with
  | none => some (put es k (.table .header []))
  | some (.table .implied sub) => some (put es k (.table .header sub))
  | _ => none

/-- Opens one more table of a list. -/
def openItem (k : String) (es : Entries) : Option Entries :=
  match find? es k with
  | none => some (put es k (.tables [[]]))
  | some (.tables items) => some (put es k (.tables (items ++ [[]])))
  | _ => none

mutual

def Node.toValue : Node → Toml
  | .value v => v
  | .table _ es => .table (entriesToValues es)
  | .tables items => .list (itemsToValues items)

def entriesToValues : List (String × Node) → List (String × Toml)
  | [] => []
  | (k, n) :: rest => (k, n.toValue) :: entriesToValues rest

/-- The tables of a list. -/
def itemsToValues : List (List (String × Node)) → List Toml
  | [] => []
  | es :: rest => .table (entriesToValues es) :: itemsToValues rest

end

/-! ## Documents -/

/-- A key with its value. What may stand on both sides of the sign between them is passed over by
`pass`. -/
def entry (pass : Reader Unit) (value : Reader Toml) : Reader (List String × Toml) := do
  let path ← key
  pass
  expect "="
  pass
  return (path, ← value)

def plain : Reader Toml := do
  if let some s ← string? then return .text s else bare

/-- A value whose parts are read by `inner`. -/
def value (inner : Reader Toml) : Reader Toml := do
  if ← eat "[" then return .list (← commaList "]" inner)
  else if ← eat "\x7b" then
    let es ← commaList "\x7d" (entry gap inner)
    match es.foldlM (fun es (e : List String × Toml) => defineAt e.1 e.2 es) [] with
    | some es => return .table (entriesToValues es)
    | none => failure
  else plain

/-- A value with a number of levels left. -/
def valueWithin : Nat → Reader Toml
  | 0 => plain
  | levels + 1 => value (valueWithin levels)

/-- A document that is being read: the path of the table that is open, and all entries. -/
abbrev Open := List String × Entries

/-- Changes the entries, or fails. -/
def change (s : Open) (path : List String) (f : Entries → Option Entries) : Reader Open := do
  match f s.2 with
  | some es => return (path, es)
  | none => failure

/-- A header or a key with its value. -/
def line (s : Open) : Reader Open := do
  if ← eat "[[" then
    let path ← key
    blanks
    expect "]]"
    change s path (within false (openItem (path.getLast?.getD "")) path.dropLast)
  else if ← eat "[" then
    let path ← key
    blanks
    expect "]"
    change s path (within false (openTable (path.getLast?.getD "")) path.dropLast)
  else
    let (path, v) ← entry blanks (valueWithin maxDepth)
    change s s.1 (within false (defineAt path v) s.1)

/-- The lines of a document. -/
def lines (s : Open) : Reader (Option Open) := do
  gap
  if (← peek?).isNone then return none
  else
    let s ← line s
    comment
    if (← peek?).isNone ∨ (← lineEnd) then return some s else failure

/-- Reads the entries of a document. -/
def read (text : String) : Option (List (String × Toml)) :=
  let document := do
    let _ ← eat "\ufeff"
    return entriesToValues (← steps lines ([], [])).2
  readAll document text

end Toml

end Skirmish.Format
