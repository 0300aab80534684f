import ScriptHost.Script.Syntax

/-!
# Programs that cannot be read

Some names cannot stand where a program has them.  Such a program is refused as a whole, before any
of it runs.

* `SyntaxFault`: what is wrong;
* `Program.fault?`: the first fault of a program in the order of its text.
-/

namespace ScriptHost

/-- What is wrong with a program. -/
inductive SyntaxFault
  /-- A variable is declared where a loop has one of that name. -/
  | redefinition
  /-- A variable has a name that means something else. -/
  | strictName
  /-- A variable has no name, or one that is a word of the language. -/
  | missingName
  /-- What is caught has no name. -/
  | missingIdentifier
  /-- A word of the language stands for a value. -/
  | unexpectedWord (word : String)
  /-- The constructor of a class above is called outside of a class. -/
  | superCall
  /-- A property of a class above is read outside of a class. -/
  | superProperty
  /-- A class above stands for a value. -/
  | superValue
  /-- A module is to be made like an object. -/
  | newImport
  /-- A character is missing. -/
  | expecting (c : Char)
  /-- A parameter of a function has no name. -/
  | missingParameter
  deriving DecidableEq, Repr

def SyntaxFault.message : SyntaxFault → String
  | redefinition => "invalid redefinition of lexical identifier"
  | strictName => "invalid variable name in strict mode"
  | missingName => "variable name expected"
  | missingIdentifier => "identifier expected"
  | unexpectedWord word => "unexpected token in expression: '" ++ word ++ "'"
  | superCall => "super() is only valid in a derived class constructor"
  | superProperty => "'super' is only valid in a method"
  | superValue => "invalid use of 'super'"
  | newImport => "invalid use of 'import()'"
  | expecting c => "expecting '" ++ String.singleton c ++ "'"
  | missingParameter => "missing formal parameter"

/-! ### Names -/

/-- The words that stand for values. -/
def valueWords : List String := ["this", "null", "true", "false"]

/-- The other words of the language. -/
def reservedWords : List String :=
  ["break", "case", "catch", "class", "const", "continue", "debugger", "default", "delete", "do",
    "else", "enum", "export", "extends", "finally", "for", "function", "if", "implements",
    "import", "in", "instanceof", "interface", "let", "new", "package", "private", "protected",
    "public", "return", "static", "super", "switch", "throw", "try", "typeof", "var", "void",
    "while", "with", "yield"]

/-- Whether a name is a word of the language. -/
def isReserved (name : String) : Bool := valueWords.contains name || reservedWords.contains name

/-- What is wrong with the name of a variable; a name that is a word is the fault `word`. -/
def nameFault? (name : String) (word : SyntaxFault) : Option SyntaxFault :=
  if isReserved name then some word
  else if name = "eval" || name = "arguments" then some .strictName
  else none

/-- What is wrong with a name that stands for a value. -/
def useFault? (name : String) : Option SyntaxFault :=
  match name with
  | "super" => some .superValue
  | "import" | "function" => some (.expecting '(')
  | "class" => some (.expecting '\x7b')
  | name => if reservedWords.contains name then some (.unexpectedWord name) else none

/-- What is wrong with a name after `new`, where `argument` is what follows in brackets. -/
def newFault? (name : String) (argument : Option Expr) : Option SyntaxFault :=
  match name with
  | "super" => some .superCall
  | "import" => some .newImport
  | "function" =>
    match argument with
    | none | some (.variable _) => some (.expecting '\x7b')
    | some _ => some .missingParameter
  | name => useFault? name

/-- What is wrong with a name of which a property is read. -/
def ownerFault? (name : String) : Option SyntaxFault :=
  if name = "super" then some .superProperty else useFault? name

/-- What is wrong with a name that is called. -/
def calleeFault? (name : String) : Option SyntaxFault :=
  if name = "super" then some .superCall else useFault? name

/-! ### Expressions and statements -/

namespace Expr

mutual

/-- The first fault of an expression. -/
def fault? : Expr → Option SyntaxFault
  | .get (.variable x) _ => ownerFault? x
  | .invoke (.variable x) args => (calleeFault? x).or (faultIn? args)
  | undefined | null | bool _ | number _ | text _ | bigint _ | symbol _ | function | hole
  | repeated .. | range _ | shared _ | cycle _ | exotic _ | globalObject => none
  | returning e | throwing e | create e | typeof e | keys e | names e | isFrozen e | stringify e
  | get e _ | contains _ e | reflectDelete e _ | nest _ e _ => e.fault?
  | array items | concat items | call _ _ items => faultIn? items
  | object fields => faultInFields? fields
  | defineValue a _ _ b | defineGetter a _ _ _ b | add a b | reflectSet a _ b =>
    a.fault?.or b.fault?
  | error c none => newFault? c none
  | error c (some e) => (newFault? c (some e)).or e.fault?
  | .variable x => useFault? x
  | invoke f args => f.fault?.or (faultIn? args)
  | instanceOf e c => e.fault?.or (useFault? c)

/-- The first fault of expressions. -/
def faultIn? : List Expr → Option SyntaxFault
  | [] => none
  | e :: rest => e.fault?.or (faultIn? rest)

/-- The first fault of fields. -/
def faultInFields? : List (String × Expr) → Option SyntaxFault
  | [] => none
  | (_, e) :: rest => e.fault?.or (faultInFields? rest)

end

end Expr

namespace Stmt

mutual

/-- The first fault of a statement inside loops whose variables have the given names. -/
def fault? (loops : List String) : Stmt → Option SyntaxFault
  | declare x e =>
    ((nameFault? x .missingName).or (if loops.contains x then some .redefinition else none)).or
      e.fault?
  | assign a _ b => a.fault?.or b.fault?
  | eval e | throw e => e.fault?
  | log _ args => Expr.faultIn? args
  | tryCatch body x handler =>
    ((faultIn? loops body).or (nameFault? x .missingIdentifier)).or (faultIn? loops handler)
  | loop _ x body => (nameFault? x .missingName).or (faultIn? (x :: loops) body)
  | cond e yes no => (e.fault?.or (faultIn? loops yes)).or (faultIn? loops no)
  | spin | recurse | hog => none
  | malformed => some .missingName

/-- The first fault of statements. -/
def faultIn? (loops : List String) : List Stmt → Option SyntaxFault
  | [] => none
  | s :: rest => (fault? loops s).or (faultIn? loops rest)

end

end Stmt

/-- The first fault of a program in the order of its text. -/
def Program.fault? (p : Program) : Option SyntaxFault :=
  (Stmt.faultIn? [] p.body).or (p.result.bind Expr.fault?)

end ScriptHost
