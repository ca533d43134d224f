/-!
# Configuration trees

A TOML document is a tree of tables.  How a table came about decides what may still be added to
it: a table in braces is complete, a table with a header takes no second header, a table that
appears only on the path of a longer header may still get its own, and a table opened by a dotted
key takes dotted keys only.  Every rule on repeated keys follows from that.
-/

namespace HarvestTestbed.Toml

/-- How a table came about. -/
inductive TableKind
  /-- Written in braces. -/
  | braced
  /-- Named by a header of its own. -/
  | headed
  /-- Named only on the path of a longer header. -/
  | implied
  /-- Opened by a dotted key. -/
  | dotted
  deriving DecidableEq, Repr

/-- A value of a document.  Real numbers and times carry no content: a configuration holds none, so
it is enough to know them from the other kinds. -/
inductive Node
  | string (text : String)
  | integer (value : Int)
  | boolean (value : Bool)
  | real
  | time
  | array (items : List Node)
  | table (kind : TableKind) (entries : List (String × Node))
  /-- The tables of a repeated header in double brackets. -/
  | tables (rows : List (List (String × Node)))
  deriving Repr

instance : Inhabited Node := ⟨.real⟩

/-- The entries of a table in the order in which their keys appeared. -/
abbrev Entries := List (String × Node)

namespace Entries

def get? (entries : Entries) (key : String) : Option Node :=
  entries.lookup key

/-- Gives a key a value, in its old place if it has one. -/
def put (entries : Entries) (key : String) (node : Node) : Entries :=
  match entries with
  | [] => [(key, node)]
  | (other, old) :: rest =>
      if other = key then (key, node) :: rest else (other, old) :: put rest key node

/-- Gives a new key its value; a key is given a value once. -/
def define (entries : Entries) (key : String) (node : Node) : Option Entries :=
  match entries.get? key with
  | none => some (entries.put key node)
  | some _ => none

def changeLast (rows : List Entries) (change : Entries → Option Entries) :
    Option (List Entries) :=
  match rows.getLast? with
  | some row => (change row).map fun changed => rows.dropLast ++ [changed]
  | none => none

/-- Gives the key at the end of a dotted path its value.  The path may only pass through tables
that are still open to dotted keys, and must end in one that a dotted key opened; of repeated
tables the last one is passed through. -/
def assign (entries : Entries) : List String → String → Node → Option Entries
  | [], key, node => entries.define key node
  | step :: path, key, node =>
      match (entries.get? step).getD (.table .dotted []) with
      | .table kind children =>
          if kind = .dotted ∨ (kind = .implied ∧ path ≠ []) then
            (assign children path key node).map fun changed =>
              entries.put step (.table kind changed)
          else none
      | .tables rows =>
          if path = [] then none
          else
            (changeLast rows fun row => assign row path key node).map fun changed =>
              entries.put step (.tables changed)
      | _ => none

/-- Changes the table at the end of a header path.  Tables that are missing on the way are implied;
of repeated tables the last one is meant, and a table in braces has no further parts. -/
def within (entries : Entries) (path : List String) (change : Entries → Option Entries) :
    Option Entries :=
  match path with
  | [] => change entries
  | step :: path =>
      match (entries.get? step).getD (.table .implied []) with
      | .table kind children =>
          if kind = .braced then none
          else
            (within children path change).map fun changed =>
              entries.put step (.table kind changed)
      | .tables rows =>
          (changeLast rows fun row => within row path change).map fun changed =>
            entries.put step (.tables changed)
      | _ => none

/-- Gives a table its header; what longer headers have put into it before stays. -/
def openTable (entries : Entries) (key : String) : Option Entries :=
  match (entries.get? key).getD (.table .implied []) with
  | .table .implied children => some (entries.put key (.table .headed children))
  | _ => none

/-- Adds an empty table to the ones of a repeated header. -/
def appendTable (entries : Entries) (key : String) : Option Entries :=
  match (entries.get? key).getD (.tables []) with
  | .tables rows => some (entries.put key (.tables (rows ++ [[]])))
  | _ => none

end Entries

/-- A statement of a document.  A dotted key is its path and its last part. -/
inductive Statement
  | pair (path : List String) (key : String) (node : Node)
  | header (path : List String) (key : String)
  | repeatedHeader (path : List String) (key : String)
  deriving Repr

/-- A document under construction: its root table and the path of the table that key-value pairs
go to. -/
structure Draft where
  root : Entries := []
  current : List String := []

namespace Draft

def add (draft : Draft) : Statement → Option Draft
  | .pair path key node =>
      (draft.root.within draft.current (·.assign path key node)).map fun root =>
        { draft with root := root }
  | .header path key =>
      (draft.root.within path (·.openTable key)).map fun root => ⟨root, path ++ [key]⟩
  | .repeatedHeader path key =>
      (draft.root.within path (·.appendTable key)).map fun root => ⟨root, path ++ [key]⟩

end Draft

/-- The root table of the document that the statements spell out, if they do not contradict each
other. -/
def assemble (statements : List Statement) : Option Entries :=
  (statements.foldlM Draft.add {}).map (·.root)

end HarvestTestbed.Toml
