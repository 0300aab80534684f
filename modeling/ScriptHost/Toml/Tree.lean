import ScriptHost.Json.Decoder

/-!
# Configuration trees

What a TOML text says, with the place of every key and value.

* `Span`: a stretch of a text;
* `Origin`: how a table came to be, which decides what may still be added to it;
* `Tree`: values, lists, tables and lists of tables;
* `Tree.openTable`, `Tree.openRow`: a header `[a.b]` or `[[a.b]]`;
* `Tree.assign`: a line `a.b = v` under a header;
* `Tree.toJson`: the document of a tree;
* `Tree.locate`: the span at the end of a path.
-/

namespace ScriptHost

namespace Toml

/-- A stretch of a text, in bytes; `stop` is the first byte after it. -/
structure Span where
  start : Nat
  stop : Nat
  deriving DecidableEq, Repr

/-- A key and its place. -/
structure Key where
  name : String
  span : Span

/-- How a table came to be. -/
inductive Origin
  /-- It has a header of its own. -/
  | header
  /-- It stands on the way to a table with a header. -/
  | implied
  /-- It stands on the way to a dotted key. -/
  | dotted
  /-- It is written between braces. -/
  | inline
  deriving DecidableEq, Repr

/-- A value with its place. -/
inductive Tree
  | leaf (value : Json) (span : Span)
  | list (items : List Tree) (span : Span)
  | table (origin : Origin) (entries : List (Key × Tree)) (span : Option Span)
  | rows (tables : List Tree)

abbrev Entries := List (Key × Tree)

namespace Tree

/-! ### Adding to tables -/

/-- The entries with the value of a key changed; a new key comes last. -/
def alter (k : Key) (f : Option Tree → Option Tree) : Entries → Option Entries
  | [] => (f none).map fun t => [(k, t)]
  | (k', t) :: rest =>
    if k'.name = k.name then (f (some t)).map fun t => (k', t) :: rest
    else (alter k f rest).map ((k', t) :: ·)

/-- Changes a table that may still grow, or the last row of a list of tables. -/
def onTable (f : Origin → Entries → Option Span → Option Tree) : Tree → Option Tree
  | table .inline _ _ => none
  | table origin es span => f origin es span
  | rows ts =>
    match ts.reverse with
    | table origin es span :: front => (f origin es span).map fun t => rows (t :: front).reverse
    | _ => none
  | _ => none

/-- Changes the table at the end of a path, making the tables on the way to it. -/
def descend (f : Origin → Entries → Option Span → Option Tree) : List Key → Tree → Option Tree
  | [], t => t.onTable f
  | k :: ks, t => t.onTable fun origin es span =>
    let change (child : Option Tree) := descend f ks (child.getD (table .implied [] none))
    (alter k change es).map fun es => table origin es span

/-- Adds a key that is not there yet. -/
def addKey (k : Key) (v : Tree) (es : Entries) : Option Entries :=
  alter k (fun | none => some v | some _ => none) es

/-- Adds `path.k = v` to a table.  The tables on the path must come from dotted keys. -/
def addDotted (k : Key) (v : Tree) : List Key → Origin → Entries → Option Entries
  | [], .dotted, es => addKey k v es
  | [], _, _ => none
  | p :: ps, _, es =>
    let change (child : Option Tree) : Option Tree :=
      match child with
      | none => (addDotted k v ps .dotted []).map fun es => table .dotted es none
      | some (table .implied es span) =>
        (addDotted k v ps .implied es).map fun es => table .implied es span
      | some (table .dotted es span) =>
        (addDotted k v ps .dotted es).map fun es => table .dotted es span
      | some (rows ts) =>
        (rows ts).onTable fun origin es span =>
          (addDotted k v ps origin es).map fun es => table origin es span
      | some _ => none
    alter p change es

/-- Adds `path.k = v` to a table under its own header or between braces. -/
def addLine (k : Key) (v : Tree) (path : List Key) (origin : Origin) (es : Entries) :
    Option Entries :=
  if path.isEmpty then addKey k v es else addDotted k v path origin es

/-- The table with header `[path.k]`: a new one, or one that other headers implied, which then
moves to the place of its own header. -/
def openTable (path : List Key) (k : Key) (span : Span) (root : Tree) : Option Tree :=
  root.descend (fun origin es outer =>
    let header (inner : Entries) : Tree := table .header inner (some span)
    match es.find? fun e => e.1.name = k.name with
    | none => some (table origin (es ++ [(k, header [])]) outer)
    | some (_, table .implied inner _) =>
      some (table origin (es.filter (fun e => e.1.name ≠ k.name) ++ [(k, header inner)]) outer)
    | some _ => none) path

/-- One more row `[[path.k]]`. -/
def openRow (path : List Key) (k : Key) (span : Span) (root : Tree) : Option Tree :=
  root.descend (fun origin es outer =>
    let row := table .header [] (some span)
    let change (child : Option Tree) : Option Tree :=
      match child with
      | none => some (rows [row])
      | some (rows ts) => some (rows (ts ++ [row]))
      | some _ => none
    (alter k change es).map fun es => table origin es outer) path

def spanOf? : Tree → Option Span
  | leaf _ span | list _ span => some span
  | table _ _ span => span
  | rows ts =>
    match ts.head?, ts.getLast? with
    | some (table _ _ (some a)), some (table _ _ (some b)) => some ⟨a.start, b.stop⟩
    | _, _ => none

/-- The line `path.k = v` under the header `[table]`, whose span grows to hold it. -/
def assign (root : Tree) (header path : List Key) (k : Key) (v : Tree) : Option Tree :=
  root.descend (fun origin es span =>
    let span := span.map fun s => ⟨s.start, ((v.spanOf?).map Span.stop).getD s.stop⟩
    (addLine k v path origin es).map fun es => table origin es span) header

/-! ### Views -/

mutual

/-- The document of a tree, its fields in the order of the text. -/
def toJson : Tree → Json
  | leaf j _ => j
  | list ts _ => .arr (listToJson ts)
  | table _ es _ => .obj (entriesToJson es)
  | rows ts => .arr (listToJson ts)

def listToJson : List Tree → List Json
  | [] => []
  | t :: ts => toJson t :: listToJson ts

def entriesToJson : Entries → List (String × Json)
  | [] => []
  | (k, t) :: es => (k.name, toJson t) :: entriesToJson es

end

/-- The part of a tree one step down, and the place of its key. -/
def child? (step : Step) : Tree → Option (Option Span × Tree)
  | list ts _ | rows ts =>
    match step with
    | .item i => ts[i]?.map fun t => (none, t)
    | .field _ => none
  | table _ es _ =>
    match step with
    | .field k => (es.find? fun e => e.1.name = k).map fun (key, t) => (some key.span, t)
    | .item _ => none
  | leaf .. => none

/-- The span of the value, or of the key, at the end of a path; `outer` where a part has no
place of its own. -/
def locate (atKey : Bool) : List Step → Tree → Option Span → Option Span
  | [], t, outer => t.spanOf?.or outer
  | step :: steps, t, outer =>
    let here := t.spanOf?.or outer
    match t.child? step with
    | none => here
    | some (key, t) =>
      if atKey && steps.isEmpty then key.or here
      else locate atKey steps t (t.spanOf?.or (key.or here))

end Tree

end Toml

end ScriptHost
