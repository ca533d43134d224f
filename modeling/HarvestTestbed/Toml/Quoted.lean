import HarvestTestbed.Toml.Reader

/-!
# Quoted texts and keys

Text in double quotes has escapes, text in single quotes has none.  Three quotes open a text of
several lines; a line break right after them does not count, every other one counts as a line feed,
and one or two quotes may stand anywhere inside, also directly before the closing three.
-/

namespace HarvestTestbed.Toml

namespace Reader

/-- A character that stands for itself between double quotes. -/
def isUnescaped (c : Char) : Bool :=
  isPlain c && c != '"' && c != '\\'

/-- A character that stands for itself between single quotes. -/
def isLiteral (c : Char) : Bool :=
  isPlain c && c != '\''

def charOfCode? (code : Nat) : Option Char :=
  if h : code.isValidChar then some (Char.ofNatAux code h) else none

/-- A character given by a fixed number of hexadecimal digits. -/
def codePoint (digits : Nat) : Reader Char :=
  converted (exactly digits isHexDigit) fun code => charOfCode? (ofDigits 16 code)

/-- The character that a letter after a backslash stands for. -/
def escapedChar? (letter : Char) : Option Char :=
  if letter = 'b' then some '\x08'
  else if letter = 'f' then some '\x0c'
  else if letter = 'n' then some '\n'
  else if letter = 'r' then some '\r'
  else if letter = 't' then some '\t'
  else if letter = '"' ∨ letter = '\\' then some letter
  else none

def escape : Reader Char := do
  mark '\\'
  converted (char fun _ => true) escapedChar? <|>
    (do mark 'u'; codePoint 4) <|>
    (do mark 'U'; codePoint 8)

/-- Text in double quotes on one line. -/
def basicText : Reader (List Char) := do
  mark '"'
  let text ← many (char isUnescaped <|> escape)
  mark '"'
  return text

def literalText : Reader (List Char) := do
  mark '\''
  let text ← run isLiteral
  mark '\''
  return text

/-- One or two quotes inside a text of several lines. -/
def innerQuotes (quote : Char) : Reader (List Char) :=
  satisfying (run1 (· == quote)) fun quotes => quotes.length ≤ 2

/-- The three closing quotes of a text of several lines, with up to two more before them that still
belong to the text. -/
def closingQuotes (quote : Char) : Reader (List Char) := do
  let inner ← (exactly 5 (· == quote)) <|> (exactly 4 (· == quote)) <|> (exactly 3 (· == quote))
  return inner.drop 3

/-- A backslash at the end of a line, which joins the next text to this line. -/
def lineJoin : Reader Unit := do
  mark '\\'
  blanks
  lineBreak
  space

/-- A piece of a text of several lines in double quotes. -/
def basicPiece : Reader (List Char) :=
  run1 isUnescaped <|>
    (do lineJoin; return []) <|>
    (do return [← escape]) <|>
    (do lineBreak; return ['\n']) <|>
    innerQuotes '"'

def literalPiece : Reader (List Char) :=
  run1 isLiteral <|> (do lineBreak; return ['\n']) <|> innerQuotes '\''

def linesOf (quote : Char) (piece : Reader (List Char)) : Reader (List Char) := do
  word [quote, quote, quote]
  let _ ← option lineBreak
  let pieces ← many piece
  let last ← closingQuotes quote
  return pieces.flatten ++ last

def quotedText : Reader (List Char) :=
  linesOf '"' basicPiece <|> basicText <|> linesOf '\'' literalPiece <|> literalText

def isBareKey (c : Char) : Bool :=
  isDecimalDigit c || ('a' ≤ c && c ≤ 'z') || ('A' ≤ c && c ≤ 'Z') || c == '_' || c == '-'

def simpleKey : Reader String :=
  String.ofList <$> (basicText <|> literalText <|> run1 isBareKey)

/-- The number of parts that a key must stay below. -/
def keyPartLimit : Nat := 80

/-- A key of one or more parts: the path and the last part. -/
def dottedKey : Reader (List String × String) := do
  let parts ← separated1 (do blanks; let part ← simpleKey; blanks; return part) (mark '.')
  match parts.getLast? with
  | some last =>
      if parts.length < keyPartLimit then return (parts.dropLast, last) else failure
  | none => failure

end Reader

end HarvestTestbed.Toml
