import ScriptHost.Conversion.Dump

/-!
# Console calls

* `logArgument`: an argument of a console call as a document, or the reason why it is none;
* `logCall`: what a method of the console does.
-/

namespace ScriptHost

/-- An argument as a document; one that cannot be converted becomes the reason. -/
def logArgument (budget : Budget) (v : Value) : Script Json :=
  (dump budget v).sequel .give fun e => .give (.str ("<" ++ e.message ++ ">"))

def logArguments (budget : Budget) : List Value → Script (List Json)
  | [] => return []
  | v :: rest => do
    let j ← logArgument budget v
    return j :: (← logArguments budget rest)

/-- Keeps a call of the console, as far as there is room.  The arguments are converted under what
the buffer can hold when the call begins; once the log has ended, the call does nothing. -/
def logCall (budget : Budget) (level : LogLevel) (args : List Value) :
    Service Value := do
  match (← Action.readLogs).remaining? with
  | none => return .undefined
  | some room =>
    let js ← logArguments (budget.capped room) args
    Action.modifyLogs fun b => b.push ⟨level, js⟩
    return .undefined

end ScriptHost
