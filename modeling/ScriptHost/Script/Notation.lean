import ScriptHost.Json.Reader
import ScriptHost.Script.Syntax

/-!
# Programs as documents

Programs are written down as documents: an expression or a statement is an object with a single
field, whose name says what it is.

* `Expr.ofJson?`, `Stmt.ofJson?`: expressions and statements;
* `Program.ofJson?`: a list of statements, of which the last may give the value of the whole;
* `Source.ofJson?`: an object with a program and a comment, or with plain text;
* `Source.ofText`: such an object in its written form, or else the text itself.

The readers are recursive in a bound on the nesting, which `Json.size` always meets.
-/

namespace ScriptHost

namespace Notation

/-! ### Parts -/

def natural? : Json → Option Nat
  | .int n => if 0 ≤ n then some n.toNat else none
  | _ => none

def string? : Json → Option String
  | .str s => some s
  | _ => none

def boolean? : Json → Option Bool
  | .bool b => some b
  | _ => none

/-- The whole number that decimal digits spell, with a sign. -/
def wholeNumber? (s : String) : Option Int :=
  let digits (neg : Bool) (cs : List Char) : Option Int :=
    if !cs.isEmpty && cs.all Char.isDigit then some (Digits.signed neg cs) else none
  match s.toList with
  | '-' :: cs => digits true cs
  | cs => digits false cs

/-- A text, given as such or by its units. -/
def text? : Json → Option Text
  | .str s => some (.unicode s)
  | .obj [("units", .arr items)] => do
    let units ← items.mapM natural?
    some (.ofUnits (units.map UInt16.ofNat))
  | _ => none

def wrapping? : Json → Option Wrapping
  | .str "arr" => some .list
  | .str "obj" => some .object
  | _ => none

/-- The exotic values by name. -/
def exotics : List (String × Exotic) :=
  [("map", .map), ("set", .set), ("regexp", .regexp), ("date", .date),
    ("boxedNumber", .boxedNumber), ("boxedBool", .boxedBool), ("boxedString", .boxedString),
    ("promise", .promise), ("generator", .generator), ("arrayBuffer", .arrayBuffer),
    ("math", .math), ("uint8", .uint8), ("symbolKey", .symbolKey), ("arguments", .arguments),
    ("classInstance", .classInstance), ("class", .classFunction),
    ("arraySubclass", .arraySubclass), ("arrayExtra", .arrayExtra),
    ("proxyObject", .proxyObject), ("sparse", .sparse), ("errorSubclass", .errorSubclass)]

end Notation

open Notation

/-! ### Expressions -/

/-- The expression that a document stands for. -/
def Expr.read? : Nat → Json → Option Expr
  | 0, _ => none
  | _, .null => some .null
  | _, .bool b => some (.bool b)
  | _, .int n => some (.number (.ofInt n))
  | _, .double d => some (.number d)
  | _, .str s => some (.text (.unicode s))
  | fuel + 1, .obj [(word, part)] =>
    let read := Expr.read? fuel
    match word, part with
    | "undef", _ => some .undefined
    | "nan", _ => some (.number .nan)
    | "inf", .int n => some (.number (.infinity (n < 0)))
    | "negzero", _ => some (.number (.zero true))
    | "bigint", .str s => (wholeNumber? s).map .bigint
    | "symbol", .str s => some (.symbol s)
    | "fn", _ => some .function
    | "fnret", e => (read e).map .returning
    | "fnthrow", e => (read e).map .throwing
    | "arr", .arr items => (items.mapM read).map .array
    | "hole", _ => some .hole
    | "obj", .arr fields => (fields.mapM fun (f : Json) =>
        match f with
        | .arr [.str k, e] => (read e).map (k, ·)
        | _ => none).map .object
    | "define", .arr [e, .str k, d] => do
      let e ← read e
      let enumerable := ((d.field? "enumerable").bind boolean?).getD true
      match d.field? "value", d.field? "get", d.field? "getThrow" with
      | some v, _, _ => return .defineValue e k enumerable (← read v)
      | none, some v, _ => return .defineGetter e k enumerable false (← read v)
      | none, none, some v => return .defineGetter e k enumerable true (← read v)
      | none, none, none => return .defineValue e k enumerable .undefined
    | "create", e => (read e).map .create
    | "units", items => (text? (.obj [("units", items)])).map .text
    | "repeat", .arr [t, n] => do return .repeated (← text? t) (← natural? n)
    | "range", n => (natural? n).map .range
    | "shared", n => (natural? n).map .shared
    | "nest", .arr [n, e, w] => do return .nest (← natural? n) (← read e) (← wrapping? w)
    | "cycle", w => (wrapping? w).map .cycle
    | "error", .arr [.str c, .null] => some (.error c none)
    | "error", .arr [.str c, e] => (read e).map fun e => .error c (some e)
    | "exotic", .str name => (exotics.lookup name).map .exotic
    | "var", .str x => some (.variable x)
    | "bim", _ => some (.variable "bim")
    | "global", _ => some .globalObject
    | "get", .arr [e, .str k] => (read e).map (.get · k)
    | "call", .arr [.str ns, .str m, .arr args] => (args.mapM read).map (.call ns m)
    | "invoke", .arr [e, .arr args] => do return .invoke (← read e) (← args.mapM read)
    | "typeof", e => (read e).map .typeof
    | "in", .arr [.str k, e] => (read e).map (.contains k)
    | "keys", e => (read e).map .keys
    | "names", e => (read e).map .names
    | "frozen", e => (read e).map .isFrozen
    | "json", e => (read e).map .stringify
    | "cat", .arr items => (items.mapM read).map .concat
    | "add", .arr [a, b] => do return .add (← read a) (← read b)
    | "reflectSet", .arr [e, .str k, v] => do return .reflectSet (← read e) k (← read v)
    | "reflectDelete", .arr [e, .str k] => (read e).map (.reflectDelete · k)
    | "instanceof", .arr [e, .str c] => (read e).map (.instanceOf · c)
    | _, _ => none
  | _, _ => none

/-- The expression that a document stands for. -/
def Expr.ofJson? (j : Json) : Option Expr := Expr.read? j.size j

/-! ### Statements -/

/-- The statement that a document stands for. -/
def Stmt.read? : Nat → Json → Option Stmt
  | 0, _ => none
  | fuel + 1, .obj [(word, part)] =>
    let all (items : List Json) : Option (List Stmt) := items.mapM (Stmt.read? fuel)
    match word, part with
    | "var", .arr [.str x, e] => (Expr.ofJson? e).map (.declare x)
    | "set", .arr [e, .str k, v] => do return .assign (← Expr.ofJson? e) k (← Expr.ofJson? v)
    | "do", e => (Expr.ofJson? e).map .eval
    | "log", .arr [.str level, .arr args] => (args.mapM Expr.ofJson?).map (.log level)
    | "throw", e => (Expr.ofJson? e).map .throw
    | "try", .arr [.arr body, .str x, .arr handler] => do
      return .tryCatch (← all body) x (← all handler)
    | "loop", .arr [n, .str x, .arr body] => do return .loop (← natural? n) x (← all body)
    | "if", .arr [e, .arr yes, .arr no] => do
      return .cond (← Expr.ofJson? e) (← all yes) (← all no)
    | "spin", _ => some .spin
    | "recurse", _ => some .recurse
    | "hog", _ => some .hog
    | "syntaxError", _ => some .malformed
    | _, _ => none
  | _, _ => none

/-- The statement that a document stands for. -/
def Stmt.ofJson? (j : Json) : Option Stmt := Stmt.read? j.size j

/-! ### Programs -/

/-- The program that a list of statements stands for. -/
def Program.ofItems? (items : List Json) : Option Program := do
  match items.getLast? with
  | some (.obj [("ret", e)]) =>
    return { body := ← items.dropLast.mapM Stmt.ofJson?, result := some (← Expr.ofJson? e) }
  | _ => return { body := ← items.mapM Stmt.ofJson? }

/-- The program that a document stands for. -/
def Program.ofJson? : Json → Option Program
  | .arr items => Program.ofItems? items
  | _ => none

/-- The source that an object gives: a program, or text. -/
def Source.ofJson? (j : Json) : Option Source :=
  match j.field? "prog", j.field? "code" with
  | some p, _ => (Program.ofJson? p).map (.program ((j.field? "comment").bind string?))
  | none, some (.str s) => some (.text s)
  | _, _ => none

/-- The source that a text spells: what the document in it stands for, or else the text. -/
def Source.ofText (s : String) : Source :=
  match (Json.read .exact s).toOption.bind Source.ofJson? with
  | some source => source
  | none => .text s

end ScriptHost
