import KernelSymbols.CommandLine.Parse
import Mathlib.Data.List.Forall2

set_option autoImplicit false

namespace KernelSymbols

-- A path is never empty.
def ValueOption.Admits (option : ValueOption) (value : Text) : Prop :=
  value = [] → option = .excludePrefix ∨ option = .logLevel

inductive Occurrence
  | valued (option : ValueOption) (value : Text) (admitted : option.Admits value)
  | skipNestedFunctions

namespace Occurrence

def parameter : Occurrence → Parameter
  | .valued option _ _ => .option option
  | .skipNestedFunctions => .switch .skipNestedFunctions

-- A value that may follow its option as an argument of its own.
def IsWord (value : Text) : Prop := value = ['-'] ∨ value.head? ≠ some '-'

inductive Spells : Occurrence → List Text → Prop
  | long {option : ValueOption} {value : Text} (admitted : option.Admits value) :
      Spells (.valued option value admitted)
        ["--".toList ++ (Parameter.option option).long ++ '=' :: value]
  | longApart {option : ValueOption} {value : Text} (admitted : option.Admits value)
      (word : IsWord value) :
      Spells (.valued option value admitted)
        ["--".toList ++ (Parameter.option option).long, value]
  | short {option : ValueOption} {value : Text} (admitted : option.Admits value) {letter : Char}
      (lettered : (Parameter.option option).letter? = some letter)
      (plain : value.head? ≠ some '=') :
      Spells (.valued option value admitted) ['-' :: letter :: value]
  | shortEquals {option : ValueOption} {value : Text} (admitted : option.Admits value)
      {letter : Char} (lettered : (Parameter.option option).letter? = some letter) :
      Spells (.valued option value admitted) ['-' :: letter :: '=' :: value]
  | shortApart {option : ValueOption} {value : Text} (admitted : option.Admits value)
      {letter : Char} (lettered : (Parameter.option option).letter? = some letter)
      (word : IsWord value) :
      Spells (.valued option value admitted) [['-', letter], value]
  | switch : Spells .skipNestedFunctions ["--skip-nested-functions".toList]

end Occurrence

namespace Settings

def add (settings : Settings) : Occurrence → Settings
  | .valued option value _ => settings.set value option
  | .skipNestedFunctions => { settings with skipNestedFunctions := true }

def give (settings : Settings) (occurrence : Occurrence) : Except Stop Settings :=
  if settings.isTaken occurrence.parameter then .error (.usage (.repeated occurrence.parameter))
  else .ok (settings.add occurrence)

end Settings

theorem ValueOption.ne_nil_of_letter? {option : ValueOption} {letter : Char}
    (lettered : (Parameter.option option).letter? = some letter) {value : Text}
    (admitted : option.Admits value) : value ≠ [] := by
  intro empty
  rcases admitted empty with rfl | rfl <;> cases lettered

namespace Argument

theorem ofText_long (parameter : Parameter) :
    ofText ("--".toList ++ parameter.long) = .long parameter.long none := by
  have uncut := (Text.cut?_eq_none_iff '=' parameter.long).mpr parameter.equals_not_mem_long
  rw [ofText_name parameter.long_ne_nil, uncut]

theorem ofText_long_equals (parameter : Parameter) (value : Text) :
    ofText ("--".toList ++ parameter.long ++ '=' :: value) = .long parameter.long (some value) := by
  have cut : Text.cut? '=' (parameter.long ++ '=' :: value) = some (parameter.long, value) :=
    Text.cut?_eq_some_iff.mpr ⟨rfl, parameter.equals_not_mem_long⟩
  rw [List.append_assoc, ofText_name (by simp), cut]

end Argument

namespace CommandLine

open Occurrence Settings

theorem parseFrom_cons {state : State} {text : Text} {argument : Argument}
    (read : Argument.ofText text = argument) (inside : argument ≠ .endOfOptions)
    (rest : List Text) :
    parseFrom state (text :: rest) =
      (takeArgument state argument).bind fun state => parseFrom state rest := by
  have other : Argument.ofText text ≠ .endOfOptions := read ▸ inside
  rw [parseFrom, read]
  · cases takeArgument state argument <;> rfl
  · exact fun ended _ => other ended
  · exact fun _ _ ended _ => other ended

theorem enter_eq_give (settings : Settings) {option : ValueOption} {value : Text}
    (admitted : option.Admits value) :
    enter settings option value = settings.give (.valued option value admitted) := by
  have fits : (value.isEmpty && (option = .input || option = .output)) = false := by
    cases value with
    | nil => rcases admitted rfl with rfl | rfl <;> rfl
    | cons c rest => rfl
  rw [enter, fits]
  rfl

theorem takeSwitch_eq_give (state : State) :
    takeSwitch state .skipNestedFunctions =
      (settle state).bind fun settings =>
        (settings.give .skipNestedFunctions).map fun settings => ⟨settings, .nothing⟩ := by
  rw [takeSwitch]
  cases settle state with
  | error stop => rfl
  | ok settings =>
      cases given : settings.skipNestedFunctions with
      | true =>
          have taken : settings.isTaken (.switch .skipNestedFunctions) = true := given
          simp [Except.bind, bind, give, parameter, taken]
          rfl
      | false =>
          have free : settings.isTaken (.switch .skipNestedFunctions) = false := given
          simp [Except.bind, bind, give, parameter, free]
          rfl

section

-- What follows an option depends on the settings that are reached, not on what is held back.
variable {rest : List Text} {finish : Settings → Except Stop Settings}
  (tail : ∀ state, parseFrom state rest = (settle state).bind finish)
include tail

theorem parseFrom_joined {state : State} {option : ValueOption} {value text : Text}
    (admitted : option.Admits value) {argument : Argument}
    (read : Argument.ofText text = argument) (inside : argument ≠ .endOfOptions)
    (taken : takeArgument state argument = takeOption state option (some value)) :
    parseFrom state ([text] ++ rest) =
      (settle state).bind fun settings =>
        (settings.give (.valued option value admitted)).bind finish := by
  rw [List.singleton_append, parseFrom_cons read inside, taken, takeOption]
  cases settle state with
  | error stop => rfl
  | ok settings =>
      have entered := enter_eq_give settings admitted
      simp only [Except.bind, bind, entered]
      cases settings.give (.valued option value admitted) with
      | error stop => rfl
      | ok next => exact tail _

theorem parseFrom_apart {state : State} {option : ValueOption} {value text : Text}
    (admitted : option.Admits value) (word : IsWord value) {argument : Argument}
    (read : Argument.ofText text = argument) (inside : argument ≠ .endOfOptions)
    (taken : takeArgument state argument = takeOption state option none) :
    parseFrom state ([text, value] ++ rest) =
      (settle state).bind fun settings =>
        (settings.give (.valued option value admitted)).bind finish := by
  rw [List.cons_append, List.singleton_append, parseFrom_cons read inside, taken, takeOption]
  cases settle state with
  | error stop => rfl
  | ok settings =>
      have entered := enter_eq_give settings admitted
      have held : takeArgument ⟨settings, .awaiting option⟩ (.word value) =
          .ok ⟨settings, .held option value⟩ := rfl
      show parseFrom ⟨settings, .awaiting option⟩ (value :: rest) = (settings.give _).bind finish
      rw [parseFrom_cons (Argument.ofText_word word) (by simp), held, ← entered]
      exact tail _

theorem parseFrom_spelled {occurrence : Occurrence} {part : List Text}
    (spelled : Spells occurrence part) (state : State) :
    parseFrom state (part ++ rest) =
      (settle state).bind fun settings => (settings.give occurrence).bind finish := by
  cases spelled with
  | long admitted =>
      apply parseFrom_joined tail admitted (Argument.ofText_long_equals _ _) (by simp)
      simp [takeArgument, Parameter.ofLong?_long]
  | longApart admitted word =>
      apply parseFrom_apart tail admitted word (Argument.ofText_long _) (by simp)
      simp [takeArgument, Parameter.ofLong?_long]
  | short admitted lettered plain =>
      have read := Argument.ofText_letter (Parameter.letter_ne_hyphen lettered)
      have nonempty := ValueOption.ne_nil_of_letter? lettered admitted
      apply parseFrom_joined tail admitted (read _) (by simp)
      simp [takeArgument, Parameter.ofLetter?_letter lettered,
        Argument.joinedValue?_of_plain nonempty plain]
  | shortEquals admitted lettered =>
      have read := Argument.ofText_letter (Parameter.letter_ne_hyphen lettered)
      apply parseFrom_joined tail admitted (read _) (by simp)
      simp [takeArgument, Parameter.ofLetter?_letter lettered, Argument.joinedValue?]
  | shortApart admitted lettered word =>
      have read := Argument.ofText_letter (Parameter.letter_ne_hyphen lettered)
      apply parseFrom_apart tail admitted word (read _) (by simp)
      simp [takeArgument, Parameter.ofLetter?_letter lettered, Argument.joinedValue?]
  | switch =>
      have read := Argument.ofText_long (.switch .skipNestedFunctions)
      have taken : takeArgument state (.long (Parameter.switch .skipNestedFunctions).long none) =
          takeSwitch state .skipNestedFunctions := rfl
      refine (parseFrom_cons read (by simp) rest).trans ?_
      rw [taken, takeSwitch_eq_give]
      cases settle state with
      | error stop => rfl
      | ok settings =>
          simp only [Except.bind]
          cases settings.give .skipNestedFunctions with
          | error stop => rfl
          | ok next => exact tail _

end

theorem parseFrom_flatten {occurrences : List Occurrence} {parts : List (List Text)}
    (spelled : List.Forall₂ Spells occurrences parts) (state : State) :
    parseFrom state parts.flatten =
      (settle state).bind fun settings => occurrences.foldlM give settings := by
  induction spelled generalizing state with
  | nil =>
      show settle state = (settle state).bind pure
      cases settle state <;> rfl
  | cons first others ih =>
      rw [List.flatten_cons, parseFrom_spelled ih first]
      rfl

theorem parse_flatten {occurrences : List Occurrence} {parts : List (List Text)}
    (spelled : List.Forall₂ Spells occurrences parts) :
    parse parts.flatten = occurrences.foldlM give {} :=
  parseFrom_flatten spelled {}

end CommandLine

end KernelSymbols
