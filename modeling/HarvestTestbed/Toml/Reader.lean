import HarvestTestbed.Number.Digits

/-!
# Readers

A reader takes what it recognizes off the front of a text and fails without a trace otherwise.
Repetition takes as many items as it can get; every item is at least one character long, so the
length of the text bounds their number.
-/

namespace HarvestTestbed.Toml

/-- Recognizes an `α` at the front of a text. -/
abbrev Reader := StateT (List Char) Option

namespace Reader

variable {α β : Type}

/-- The next character, left in place. -/
def peek : Reader (Option Char) := fun text => some (text.head?, text)

def char (accepts : Char → Bool) : Reader Char
  | [] => none
  | c :: text => if accepts c then some (c, text) else none

def mark (c : Char) : Reader Unit := do
  let _ ← char (· == c)

def word : List Char → Reader Unit
  | [] => pure ()
  | c :: rest => do
      mark c
      word rest

/-- The longest run of characters of a class. -/
def run (accepts : Char → Bool) : Reader (List Char) := fun text =>
  some (text.takeWhile accepts, text.dropWhile accepts)

def run1 (accepts : Char → Bool) : Reader (List Char) := do
  let first ← char accepts
  let rest ← run accepts
  return first :: rest

def exactly (count : Nat) (accepts : Char → Bool) : Reader (List Char) :=
  match count with
  | 0 => pure []
  | count + 1 => do
      let first ← char accepts
      let rest ← exactly count accepts
      return first :: rest

/-- The end of the text. -/
def finish : Reader Unit
  | [] => some ((), [])
  | _ :: _ => none

def option (item : Reader α) : Reader (Option α) :=
  (some <$> item) <|> pure none

def upTo (bound : Nat) (item : Reader α) : Reader (List α) :=
  match bound with
  | 0 => pure []
  | bound + 1 => (do
      let first ← item
      let rest ← upTo bound item
      return first :: rest) <|> pure []

def many (item : Reader α) : Reader (List α) := fun text =>
  upTo text.length item text

/-- Items with a separator between any two. -/
def separated1 (item : Reader α) (separator : Reader Unit) : Reader (List α) := do
  let first ← item
  let rest ← many (do separator; item)
  return first :: rest

def separated (item : Reader α) (separator : Reader Unit) : Reader (List α) :=
  separated1 item separator <|> pure []

/-- An item for which a condition holds. -/
def satisfying (item : Reader α) (holds : α → Bool) : Reader α := do
  let value ← item
  if holds value then pure value else failure

/-- An item turned into something else, if that is possible. -/
def converted (item : Reader α) (convert : α → Option β) : Reader β := do
  let value ← item
  match convert value with
  | some result => pure result
  | none => failure

def ofText? (reader : Reader α) (text : String) : Option α :=
  (reader text.toList).map (·.1)

end Reader

def isBlank (c : Char) : Bool :=
  c == ' ' || c == '\t'

/-- A character that may stand in a text or comment: of the ASCII control characters only the tab,
and everything else. -/
def isPlain (c : Char) : Bool :=
  c == '\t' || (0x20 ≤ c.val && c.val != 0x7f)

namespace Reader

def blanks : Reader Unit := do
  let _ ← run isBlank

/-- A line break: a line feed, alone or after a carriage return. -/
def lineBreak : Reader Unit :=
  mark '\n' <|> word ['\r', '\n']

def comment : Reader Unit := do
  mark '#'
  let _ ← run isPlain

def lineEnd : Reader Unit :=
  lineBreak <|> finish

/-- What may follow on the line of a statement. -/
def lineRest : Reader Unit := do
  blanks
  let _ ← option comment
  lineEnd

def space : Reader Unit := do
  let _ ← many ((do let _ ← run1 isBlank) <|> lineBreak)

/-- Blanks, line breaks and comments, if any. -/
def filler : Reader Unit := do
  let _ ← many ((do let _ ← run1 isBlank) <|> lineBreak <|> comment)

end Reader

end HarvestTestbed.Toml
