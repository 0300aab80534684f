import ScriptHost.Number.Double
import ScriptHost.Log
import ScriptHost.Text.Units

/-!
# Programs

The scripts that a sandbox runs: a small language of expressions and statements.

* `Expr`: expressions; `Expr.mentions`: whether one uses a name;
* `Stmt`: statements;
* `Program`: statements, and an expression for the value of the whole;
* `Program.declared`: the variables that a program declares anywhere in it;
* `Source`: a program with a comment before it, or plain text.
-/

namespace ScriptHost

/-- Objects that are more than a list of properties. -/
inductive Exotic
  | map
  | set
  | regexp
  | date
  | boxedNumber
  | boxedBool
  | boxedString
  | promise
  | generator
  | arrayBuffer
  | math
  | uint8
  | symbolKey
  | arguments
  | classInstance
  | classFunction
  | arraySubclass
  | arrayExtra
  | proxyObject
  | sparse
  | errorSubclass
  deriving DecidableEq, Repr

/-- A list or an object, as the wrapping of a value. -/
inductive Wrapping
  | list
  | object
  deriving DecidableEq, Repr

/-- An expression. -/
inductive Expr
  | undefined
  | null
  | bool (b : Bool)
  | number (d : Double)
  | text (t : Text)
  | bigint (n : Int)
  | symbol (description : String)
  /-- The function whose value is one. -/
  | function
  /-- A function that gives the value of an expression, evaluated at each call. -/
  | returning (value : Expr)
  /-- A function that throws the value of an expression, evaluated at each call. -/
  | throwing (value : Expr)
  | array (items : List Expr)
  /-- A missing item of an array. -/
  | hole
  | object (fields : List (String × Expr))
  /-- Defines a property of a value and gives the value. -/
  | defineValue (target : Expr) (key : String) (enumerable : Bool) (value : Expr)
  /-- Defines a property that is computed at each reading, or whose reading throws. -/
  | defineGetter (target : Expr) (key : String) (enumerable throws : Bool) (value : Expr)
  /-- A new object with the given prototype. -/
  | create (prototype : Expr)
  /-- A text a number of times in a row. -/
  | repeated (t : Text) (count : Nat)
  /-- The numbers from zero up to a bound. -/
  | range (count : Nat)
  /-- A list whose two items are one and the same list, so many levels deep. -/
  | shared (levels : Nat)
  /-- A value wrapped in so many lists or objects. -/
  | nest (levels : Nat) (value : Expr) (wrapping : Wrapping)
  /-- A list or an object that holds itself. -/
  | cycle (wrapping : Wrapping)
  /-- A new error object; without a message for a missing argument. -/
  | error (constructor : String) (message : Option Expr)
  | exotic (kind : Exotic)
  | variable (name : String)
  /-- The object that holds the global variables. -/
  | globalObject
  | get (target : Expr) (key : String)
  /-- A capability, by its namespace and name. -/
  | call (namespaceName method : String) (args : List Expr)
  | invoke (callee : Expr) (args : List Expr)
  | typeof (value : Expr)
  | contains (key : String) (target : Expr)
  | keys (target : Expr)
  | names (target : Expr)
  | isFrozen (target : Expr)
  | stringify (value : Expr)
  /-- The texts of values in a row; null and undefined have none. -/
  | concat (items : List Expr)
  | add (a b : Expr)
  | reflectSet (target : Expr) (key : String) (value : Expr)
  | reflectDelete (target : Expr) (key : String)
  | instanceOf (value : Expr) (constructor : String)
  deriving Inhabited

namespace Expr

mutual

/-- Whether an expression uses a name outside the functions in it, which have a receiver and
arguments of their own. -/
def mentions (x : String) : Expr → Bool
  | .variable y => y = x
  | array items | concat items | call _ _ items => mentionedIn x items
  | object fields => mentionedInFields x fields
  | defineValue a _ _ b | add a b | reflectSet a _ b => a.mentions x || b.mentions x
  | defineGetter e _ _ _ _ | create e | nest _ e _ | get e _ | typeof e | contains _ e | keys e
  | names e | isFrozen e | stringify e | reflectDelete e _ => e.mentions x
  | error c none => c = x
  | error c (some e) | instanceOf e c => c = x || e.mentions x
  | invoke f args => f.mentions x || mentionedIn x args
  | undefined | null | bool _ | number _ | text _ | bigint _ | symbol _ | function
  | returning _ | throwing _ | hole | repeated .. | range _ | shared _ | cycle _ | exotic _
  | globalObject => false

def mentionedIn (x : String) : List Expr → Bool
  | [] => false
  | e :: rest => e.mentions x || mentionedIn x rest

def mentionedInFields (x : String) : List (String × Expr) → Bool
  | [] => false
  | (_, e) :: rest => e.mentions x || mentionedInFields x rest

end

end Expr

/-- A statement. -/
inductive Stmt
  | declare (name : String) (value : Expr)
  | assign (target : Expr) (key : String) (value : Expr)
  | eval (value : Expr)
  | log (level : String) (args : List Expr)
  | throw (value : Expr)
  | tryCatch (body : List Stmt) (name : String) (handler : List Stmt)
  | loop (count : Nat) (name : String) (body : List Stmt)
  | cond (test : Expr) (yes no : List Stmt)
  /-- Goes on until the time is up. -/
  | spin
  /-- Calls itself until the stack is full. -/
  | recurse
  /-- Allocates until the heap is full. -/
  | hog
  /-- Text that is no statement. -/
  | malformed
  deriving Inhabited

/-- Statements, and an expression for the value of the whole. -/
structure Program where
  body : List Stmt
  result : Option Expr := none

namespace Stmt

mutual

/-- The variables that a statement declares, in order. -/
def declared : Stmt → List String
  | declare x _ => [x]
  | tryCatch body _ handler => declaredIn body ++ declaredIn handler
  | loop _ _ body => declaredIn body
  | cond _ yes no => declaredIn yes ++ declaredIn no
  | _ => []

def declaredIn : List Stmt → List String
  | [] => []
  | s :: rest => declared s ++ declaredIn rest

end

end Stmt

namespace Program

/-- The variables that the program declares. -/
def declared (p : Program) : List String := Stmt.declaredIn p.body

end Program

/-! ### Source text -/

/-- What is given to a sandbox to run. -/
inductive Source
  /-- A program, after a comment if there is one. -/
  | program (comment : Option String) (p : Program)
  /-- Text that stands for itself.  It runs only when it is blank. -/
  | text (s : String)

namespace Source

/-- The text that decides in which dialect the source is written.  Programs never show a sign of
types; their comments may. -/
def visibleText : Source → String
  | program none _ => ""
  | program (some comment) _ => "/*" ++ comment ++ "*/\n"
  | text s => s

/-- The number of bytes before the first NUL, if there is one. -/
def nulIndex? (s : Source) : Option Nat :=
  let cs := s.visibleText.toList
  let before := cs.takeWhile fun c => c.toNat != 0
  if before.length < cs.length then some (total (before.map Char.utf8Size)) else none

end Source

end ScriptHost
