import HarvestTestbed.Toml.Node
import HarvestTestbed.Toml.Number
import HarvestTestbed.Toml.Quoted
import HarvestTestbed.Toml.Time

/-!
# Documents

A document is a sequence of lines: blank lines, comments, headers and key-value pairs.  A value may
hold further values in brackets and braces, up to a fixed depth.
-/

namespace HarvestTestbed.Toml

/-- The depth that nested brackets and braces must stay below. -/
def nestingLimit : Nat := 80

namespace Reader

def boolean : Reader Bool :=
  (do word ['t', 'r', 'u', 'e']; return true) <|>
    (do word ['f', 'a', 'l', 's', 'e']; return false)

/-- A value without further values in it.  A time is looked for before a number, and a real number
before an integer, because the one begins like the other. -/
def scalar : Reader Node :=
  ((fun text => .string (String.ofList text)) <$> quotedText) <|>
    (do time; return .time) <|>
    (do real; return .real) <|>
    (.integer <$> integer) <|>
    (.boolean <$> boolean)

/-- Items in brackets; a comma may follow the last one. -/
def arrayOf (item : Reader Node) : Reader Node := do
  mark '['
  let items ← separated (do filler; let node ← item; filler; return node) (mark ',')
  if !items.isEmpty then
    let _ ← option (mark ',')
  filler
  mark ']'
  return .array items

/-- A key with its value. -/
def keyed (item : Reader Node) : Reader (List String × String × Node) := do
  let key ← dottedKey
  mark '='
  blanks
  let node ← item
  blanks
  return (key.1, key.2, node)

/-- Key-value pairs in braces, all on one line and without a comma after the last one. -/
def tableOf (item : Reader Node) : Reader Node := do
  mark '\x7b'
  let pairs ← separated (keyed item) (mark ',')
  blanks
  mark '\x7d'
  match pairs.foldlM (fun entries pair => Entries.assign entries pair.1 pair.2.1 pair.2.2) [] with
  | some entries => return .table .braced entries
  | none => failure

/-- A value that holds less than `depth` levels of further values. -/
def valueBelow : Nat → Reader Node
  | 0 => failure
  | 1 => scalar
  | depth + 1 => scalar <|> arrayOf (valueBelow depth) <|> tableOf (valueBelow depth)

def value : Reader Node :=
  valueBelow nestingLimit

def header : Reader Statement :=
  (do word ['[', '[']
      let key ← dottedKey
      word [']', ']']
      lineRest
      return .repeatedHeader key.1 key.2) <|>
  (do mark '['
      let key ← dottedKey
      mark ']'
      lineRest
      return .header key.1 key.2)

def pair : Reader Statement := do
  let read ← keyed value
  lineRest
  return .pair read.1 read.2.1 read.2.2

def line : Reader (Option Statement) := do
  let statement ← (do comment; lineEnd; return none) <|> (some <$> header) <|>
    (do lineBreak; return none) <|> (some <$> pair)
  blanks
  return statement

/-- All statements of a document.  A mark of the byte order in front does not count. -/
def document : Reader (List Statement) := do
  let _ ← option (mark '\ufeff')
  blanks
  let lines ← many line
  finish
  return lines.filterMap id

end Reader

def parse? (text : String) : Option Entries := do
  let statements ← Reader.document.ofText? text
  assemble statements

end HarvestTestbed.Toml
