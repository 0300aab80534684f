import ScriptHost.CommandLine.Setting

/-!
# Commands out of words

* `Word`: the forms that a word of the command line has;
* `Draft`: what the words so far have set;
* `Command`, `Command.ofArguments`: what the command line asks for.

A value that stands in a word of its own is looked at only when the next setting, the file or the
end has been seen, so that a word that fits nowhere is complained about first.
-/

namespace ScriptHost

namespace CommandLine

/-! ### Words -/

/-- The forms that a word has. -/
inductive Word
  /-- Two dashes: all that follows is plain. -/
  | escape
  | long (name : String) (value : Option String)
  | letters (cs : List Char)
  | plain (text : String)
  deriving DecidableEq, Repr

/-- The form of a word. -/
def Word.ofString (s : String) : Word :=
  match s.toList with
  | ['-', '-'] => .escape
  | '-' :: '-' :: cs =>
    let name := cs.takeWhile (· != '=')
    let value := cs.drop name.length
    .long (String.ofList name) (if value.isEmpty then none else some (String.ofList value.tail))
  | '-' :: c :: cs => .letters (c :: cs)
  | _ => .plain s

/-! ### Drafts -/

/-- Why the words are not followed to a command. -/
inductive Stop
  | fault (f : UsageFault)
  /-- Help was asked for. -/
  | help (topic : Topic)
  /-- Nothing was said. -/
  | nothing
  deriving DecidableEq, Repr

/-- What a script is to be run with. -/
structure RunOptions where
  script : String
  config : Option String := none
  fixtures : Option String := none
  timeoutMs : Option Nat := none
  deny : List Permission := []
  allow : List Permission := []
  /-- Whether the script is typed, if it was said. -/
  typed : Option Bool := none

/-- What the words so far have set. -/
structure Draft where
  /-- The settings that were given. -/
  seen : List Setting := []
  /-- The last setting, whose value has not been looked at. -/
  pending : Option (Setting × Option String) := none
  /-- Whether the file has been named. -/
  named : Bool := false
  file : Option String := none
  options : RunOptions := { script := "" }
  json : Bool := false

namespace Draft

def fail {α : Type} (f : UsageFault) : Except Stop α := .error (.fault f)

/-- A value that is a path. -/
def path (s : Setting) (value : String) : Except Stop String :=
  if value.isEmpty then fail (.missingValue s) else .ok value

/-- A value that is the name of a permission. -/
def permission (s : Setting) (value : String) : Except Stop Permission :=
  match Permission.ofKey? value with
  | some p => .ok p
  | none => fail (.badValue value s (some (Permission.unknownMessage value)))

/-- A value that is a count. -/
def count (s : Setting) (value : String) : Except Stop Nat :=
  match Count.read value with
  | .ok n => .ok n
  | .error fault => fail (.badValue value s (some fault.message))

/-- A value that is true or false. -/
def choice (s : Setting) (value : String) : Except Stop Bool :=
  if value = "true" then .ok true
  else if value = "false" then .ok false
  else if value.isEmpty then fail (.missingValue s)
  else fail (.badValue value s none)

/-- Sets what a setting with its value asks for. -/
def assign (s : Setting) (value : String) (d : Draft) : Except Stop Draft :=
  let o := d.options
  match s with
  | .file => do return { d with file := some (← path s value) }
  | .config => do return { d with options := { o with config := some (← path s value) } }
  | .fixtures => do return { d with options := { o with fixtures := some (← path s value) } }
  | .timeout => do return { d with options := { o with timeoutMs := some (← count s value) } }
  | .deny => do return { d with options := { o with deny := o.deny ++ [← permission s value] } }
  | .allow => do return { d with options := { o with allow := o.allow ++ [← permission s value] } }
  | .altDialect => do return { d with options := { o with typed := some (← choice s value) } }
  | .json | .verbose | .help => fail (.unexpectedValue value s)

/-- Notes that a setting was given, which may be so only once. -/
def note (s : Setting) (d : Draft) : Except Stop Draft :=
  if d.seen.contains s && !s.isRepeatable then fail (.repeated s)
  else .ok { d with seen := s :: d.seen }

/-- Looks at the value of the last setting. -/
def settle (d : Draft) : Except Stop Draft :=
  match d.pending with
  | none => .ok d
  | some (s, none) => fail (.missingValue s)
  | some (s, some value) => do assign s value (← note s { d with pending := none })

/-- Takes a setting with a value in the same word. -/
def give (s : Setting) (value : String) (d : Draft) : Except Stop Draft := do
  assign s value (← note s (← d.settle))

/-- Takes a setting whose value stands in the next word. -/
def await (s : Setting) (d : Draft) : Except Stop Draft := do
  return { (← d.settle) with pending := some (s, none) }

/-- Takes a setting that has no value. -/
def raise (topic : Topic) (s : Setting) (d : Draft) : Except Stop Draft := do
  let d ← d.settle
  if s = .help then .error (.help topic)
  else
    let d ← note s d
    return { d with json := d.json || s = .json }

/-- Takes a word that stands for itself: the file, if the command has one. -/
def place (topic : Topic) (text : String) (d : Draft) : Except Stop Draft :=
  if topic = .run && !d.named then do
    return { (← d.settle) with pending := some (.file, some text), named := true }
  else fail (.unexpectedArgument text)

/-- Takes a word without dashes: the value that is waited for, or a word that stands for itself. -/
def takePlain (topic : Topic) (text : String) (d : Draft) : Except Stop Draft :=
  match d.pending with
  | some (s, none) => .ok { d with pending := some (s, some text) }
  | _ => d.place topic text

/-- Takes a long spelling. -/
def takeLong (topic : Topic) (name : String) (value : Option String) (d : Draft) :
    Except Stop Draft :=
  match topic.settings.find? fun s => s.longName? = some name, value with
  | none, _ => fail (.unexpectedArgument ("--" ++ name))
  | some s, some v =>
    if s.takesValue then d.give s v else fail (.unexpectedValue v s)
  | some s, none => if s.takesValue then d.await s else d.raise topic s

/-- Takes short spellings in a row.  What follows a setting with a value is the value. -/
def takeLetters (topic : Topic) : List Char → Draft → Except Stop Draft
  | [], d => .ok d
  | c :: rest, d =>
    match topic.settings.find? fun s => s.letter? = some c with
    | none => fail (.unexpectedArgument (String.ofList ['-', c]))
    | some s =>
      if s.takesValue then
        match rest with
        | [] => d.await s
        | '=' :: value => d.give s (String.ofList value)
        | value => d.give s (String.ofList value)
      else do takeLetters topic rest (← d.raise topic s)

end Draft

/-! ### Commands -/

/-- What the command line asks for. -/
inductive Command
  | run (options : RunOptions)
  | schema (asJson : Bool)

namespace Command

/-- Takes words of which none is a setting. -/
def placeAll (topic : Topic) : List String → Draft → Except Stop Draft
  | [], d => .ok d
  | w :: rest, d => do placeAll topic rest (← d.place topic w)

/-- Takes the words after the name of a command. -/
def takeAll (topic : Topic) : List String → Draft → Except Stop Draft
  | [], d => .ok d
  | w :: rest, d =>
    match Word.ofString w with
    | .escape => placeAll topic rest d
    | .long name value => do takeAll topic rest (← d.takeLong topic name value)
    | .letters cs => do takeAll topic rest (← d.takeLetters topic cs)
    | .plain text => do takeAll topic rest (← d.takePlain topic text)

/-- What the words after the name of a command have set. -/
def draftOf (topic : Topic) (words : List String) : Except Stop Draft := do
  Draft.settle (← takeAll topic words {})

/-- The help that words ask for: on the program, on a command, or on help itself. -/
def helpOn (topic : Topic) : List String → Stop
  | [] => .help topic
  | w :: rest =>
    match topic, commands.lookup w with
    | .program, some t => helpOn t rest
    | _, _ => .fault (.unknownCommand w)

/-- The command of a name, with the words that follow it. -/
def ofTopic (topic : Topic) (words : List String) : Except Stop Command :=
  match topic with
  | .run => do
    let d ← draftOf .run words
    match d.file with
    | some script => return .run { d.options with script }
    | none => .error (.fault (.missingSetting .file))
  | .schema => do return .schema (← draftOf .schema words).json
  | .help | .program => .error (helpOn .program words)

/-- The command that the words ask for, where `d` holds what was said before the command. -/
def ofWords (d : Draft) : List String → Except Stop Command
  | [] => .error (if d.seen.isEmpty then .nothing else .fault .noCommand)
  | w :: rest =>
    match commands.lookup w with
    | some topic => ofTopic topic rest
    | none =>
      match Word.ofString w with
      | .escape =>
        match rest with
        | [] => ofWords d []
        | w :: _ =>
          if (commands.lookup w).isSome then .error (.fault (.unexpectedArgument w))
          else .error (.fault (.unknownCommand w))
      | .long name value => do ofWords (← d.takeLong .program name value) rest
      | .letters cs => do ofWords (← d.takeLetters .program cs) rest
      | .plain text => .error (.fault (.unknownCommand text))

/-- The command that the arguments of the program ask for. -/
def ofArguments (arguments : List String) : Except Stop Command := ofWords {} arguments

end Command

end CommandLine

end ScriptHost
