import ScriptHost.Toml.Scalar

/-!
# Reading configuration text

The reader of TOML 1.0.

* `Toml.key`: a dotted key;
* `Toml.value`: a value, with its place;
* `Toml.read`: the tree of a text, or the byte where it stops being TOML.
-/

namespace ScriptHost

namespace Toml

open Rule

/-! ### Keys -/

def isKeyChar (c : Char) : Bool := c.isAlphanum || c = '_' || c = '-'

/-- One part of a key: a bare word or a string on one line. -/
def keyPart : Rule Key := do
  let before ← here
  let name ← match before.rest.head? with
    | some '"' => basicString
    | some '\'' => literalString
    | _ => do
      let cs ← many1 (char isKeyChar)
      pure (String.ofList cs)
  let after ← here
  pure ⟨name, ⟨before.pos, after.pos⟩⟩

/-- Keys have fewer parts than this. -/
def keyPartLimit : Nat := 80

/-- The parts of a dotted key: those before the last, and the last. -/
def key : Rule (List Key × Key) :=
  let part : Rule Key := do
    blanks
    let k ← keyPart
    blanks
    pure k
  refine (separated part (char (· = '.'))) fun parts =>
    if parts.length < keyPartLimit then parts.getLast?.map fun k => (parts.dropLast, k) else none

/-! ### Values -/

/-- A key and its value between braces. -/
def pair (value : Rule Tree) : Rule ((List Key × Key) × Tree) := do
  let k ← key
  commit do
    let _ ← char (· = '=')
    blanks
    let v ← value
    blanks
    pure (k, v)

/-- The entries that pairs make, if no two collide. -/
def entriesOf? (pairs : List ((List Key × Key) × Tree)) : Option Entries :=
  pairs.foldlM (fun es ((path, k), v) => Tree.addLine k v path .inline es) []

/-- The entries of a table between braces. -/
def braced (value : Rule Tree) : Rule Entries := do
  let _ ← char (· = '\x7b')
  let es ← commit (refine
    (do
      let pairs ← optional (separated (pair value) (char (· = ',')))
      blanks
      pure (pairs.getD []))
    entriesOf?)
  let _ ← commit (char (· = '\x7d'))
  pure es

/-- The items of a list between brackets; a comma may follow the last one. -/
def bracketed (value : Rule Tree) : Rule (List Tree) := do
  let item : Rule Tree := do
    spaceAndComments
    let v ← value
    spaceAndComments
    pure v
  let _ ← char (· = '[')
  let items ← commit (optional (do
    let items ← separated item (char (· = ','))
    let _ ← optional (char (· = ','))
    pure items))
  commit spaceAndComments
  let _ ← commit (char (· = ']'))
  pure (items.getD [])

/-- A value, given the rules for lists and for the entries of tables. -/
def valueWith (list : Rule (List Tree)) (table : Rule Entries) : Rule Tree := do
  let before ← here
  match before.rest.head? with
  | some '[' => do
    let items ← list
    let after ← here
    pure (.list items ⟨before.pos, after.pos⟩)
  | some '\x7b' => do
    let es ← table
    let after ← here
    pure (.table .inline es (some ⟨before.pos, after.pos⟩))
  | c => do
    let v ← if c == some '"' || c == some '\'' then do let s ← string; pure (Json.str s) else word
    let after ← here
    pure (.leaf v ⟨before.pos, after.pos⟩)

/-- A value in which at most `levels` lists and tables stand inside each other. -/
def value : (levels : Nat) → Rule Tree
  | 0 => valueWith stop stop
  | levels + 1 => valueWith (bracketed (value levels)) (braced (value levels))

/-- The lists and tables that may stand inside each other in one value. -/
def maxLevels : Nat := 79

/-! ### Lines -/

/-- What has been read: the header of the current table, and the tree so far. -/
structure Draft where
  header : List Key
  tree : Tree

/-- A header `[a.b]` or `[[a.b]]` between its brackets, up to the end of its line. -/
def headerLine (opening closing : List Char) : Rule ((List Key × Key) × Span) := do
  let before ← here
  literal opening
  let k ← commit key
  commit (literal closing)
  let after ← here
  commit endOfLine
  pure (k, ⟨before.pos, after.pos⟩)

/-- A header of a table. -/
def tableLine (d : Draft) : Rule Draft :=
  refine (headerLine ['['] [']']) fun ((path, k), span) =>
    (d.tree.openTable path k span).map fun tree => ⟨path ++ [k], tree⟩

/-- A header of one more row. -/
def rowLine (d : Draft) : Rule Draft :=
  refine (headerLine ['[', '['] [']', ']']) fun ((path, k), span) =>
    (d.tree.openRow path k span).map fun tree => ⟨path ++ [k], tree⟩

/-- A line `a.b = v`. -/
def assignment (d : Draft) : Rule Draft :=
  let line : Rule ((List Key × Key) × Tree) := do
    let k ← key
    commit do
      let _ ← char (· = '=')
      blanks
      let v ← value maxLevels
      endOfLine
      pure (k, v)
  refine line fun ((path, k), v) =>
    (d.tree.assign d.header path k v).map fun tree => ⟨d.header, tree⟩

/-- One line that is not blank. -/
def line (d : Draft) : Rule Draft := do
  let i ← here
  match i.rest with
  | '#' :: _ => do
    commit comment
    commit (orElse lineEnd atEnd)
    pure d
  | '[' :: '[' :: _ => commit (rowLine d)
  | ['['] => stop
  | '[' :: _ => commit (tableLine d)
  | '\n' :: _ | '\r' :: _ => do
    orElse lineEnd miss
    pure d
  | _ :: _ => commit (assignment d)
  | [] => miss

/-- At most `fuel` lines, and the end of the text. -/
def linesUpTo : (fuel : Nat) → Draft → Rule Tree
  | 0, _ => miss
  | fuel + 1, d => fun i =>
    match line d i with
    | .read d j => (do blanks; linesUpTo fuel d) j
    | .missed _ => (do atEnd; pure d.tree) i
    | .broken stop => .broken stop

/-- The tree of a whole text, which may begin with a byte order mark. -/
def document : Rule Tree := fun i =>
  let empty : Draft := ⟨[], .table .header [] none⟩
  let start : Rule Tree := do
    let _ ← optional (char (· = '\uFEFF'))
    blanks
    linesUpTo (i.rest.length + 1) empty
  start i

/-- The tree of a text, or the byte at which it stops being TOML. -/
def read (s : String) : Except Nat Tree :=
  match document ⟨s.toList, 0⟩ with
  | .read tree _ => .ok tree
  | .missed stop | .broken stop => .error stop

end Toml

end ScriptHost
