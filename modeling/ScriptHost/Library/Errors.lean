import ScriptHost.Library.Functions

/-!
# Errors

* `makeError`: a new error object;
* `errorText`: the text of an error, its name and its message.
-/

namespace ScriptHost

/-- A new error object: a message unless it is undefined, a cause if the options name one, the
errors that it stands for, and a trace. -/
def makeError (c : ErrorClass) (how : Invocation) (args : List Value) : Script Value := do
  let r ← newInstance how (.error c) .error
  let (message, options) :=
    if c = .aggregateError then (argument args 1, argument args 2)
    else (argument args 0, argument args 1)
  if message != .undefined then add r "message" (.string (← toText message))
  match options with
  | .object o => if ← hasProperty o "cause" then add r "cause" (← getOf o "cause")
  | _ => pure ()
  if c = .aggregateError then add r "errors" (← newList (← iterated (argument args 0)))
  add r "stack" (.ofString "")
  return .object r
where
  /-- Adds a property that does not show. -/
  add (r : Ref) (key : String) (v : Value) : Script Unit :=
    .change (.define r key (.ofProperty (.hidden v)))

/-- A property as text, or a text that stands for a missing one. -/
def textOr (v : Value) (key absent : String) : Script Text := do
  match ← getProperty v key with
  | .undefined => return .unicode absent
  | w => toText w

/-- The text of an error: its name and its message. -/
def errorText (this : Value) : Script Value := do
  let _ ← requireObject this "not an object"
  let name ← textOr this "name" "Error"
  let message ← textOr this "message" ""
  if name.isEmpty then return .string message
  else if message.isEmpty then return .string name
  else return .string (name ++ .unicode ": " ++ message)

end ScriptHost
