import KernelSymbols.CommandLine.Argument
import KernelSymbols.CommandLine.Settings
import KernelSymbols.CommandLine.UsageError

set_option autoImplicit false

namespace KernelSymbols.CommandLine

/-- The last option, as long as its value is not entered. -/
inductive Pending
  | nothing
  | awaiting (option : ValueOption)
  | held (option : ValueOption) (value : Text)
deriving DecidableEq, Repr

structure State where
  settings : Settings := {}
  pending : Pending := .nothing
deriving DecidableEq, Repr

def enter (settings : Settings) (option : ValueOption) (value : Text) : Except Stop Settings :=
  if settings.isTaken (.option option) then .error (.usage (.repeated (.option option)))
  else if value.isEmpty && (option = .input || option = .output) then
    .error (.usage (.missingValue option))
  else .ok (settings.set value option)

def settle (state : State) : Except Stop Settings :=
  match state.pending with
  | .nothing => .ok state.settings
  | .awaiting option => .error (.usage (.missingValue option))
  | .held option value => enter state.settings option value

def takeOption (state : State) (option : ValueOption) : Option Text → Except Stop State
  | none => do
      let settings ← settle state
      return ⟨settings, .awaiting option⟩
  | some value => do
      let settings ← settle state
      let settings ← enter settings option value
      return ⟨settings, .nothing⟩

def takeSwitch (state : State) (switch : Switch) : Except Stop State := do
  let settings ← settle state
  match switch with
  | .help => throw .help
  | .version => throw .version
  | .skipNestedFunctions =>
      if settings.isTaken (.switch switch) then throw (.usage (.repeated (.switch switch)))
      else return ⟨{ settings with skipNestedFunctions := true }, .nothing⟩

def takeWord (state : State) (word : Text) : Except Stop State :=
  match state.pending with
  | .awaiting option => .ok { state with pending := .held option word }
  | _ => .error (.usage (.unexpectedArgument word))

/-- A switch with a letter ends the reading, so what is joined to its letter does not count. -/
def takeArgument (state : State) : Argument → Except Stop State
  | .endOfOptions => .ok state
  | .long name value =>
      match Parameter.ofLong? name, value with
      | some (.option option), value => takeOption state option value
      | some (.switch switch), none => takeSwitch state switch
      | some (.switch switch), some value => .error (.usage (.unexpectedValue switch value))
      | none, _ => .error (.usage (.unexpectedArgument ("--".toList ++ name)))
  | .short letter joined =>
      match Parameter.ofLetter? letter with
      | some (.option option) => takeOption state option (Argument.joinedValue? joined)
      | some (.switch switch) => takeSwitch state switch
      | none => .error (.usage (.unexpectedArgument ['-', letter]))
  | .word word => takeWord state word

def parseFrom (state : State) : List Text → Except Stop Settings
  | [] => settle state
  | text :: rest =>
      match Argument.ofText text, rest with
      | .endOfOptions, [] => settle state
      | .endOfOptions, extra :: _ => .error (.usage (.unexpectedArgument extra))
      | argument, rest =>
          match takeArgument state argument with
          | .ok state => parseFrom state rest
          | .error stop => .error stop

def parse (arguments : List Text) : Except Stop Settings := parseFrom {} arguments

end KernelSymbols.CommandLine
