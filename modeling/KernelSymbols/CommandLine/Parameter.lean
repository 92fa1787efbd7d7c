import KernelSymbols.Text.Basic

set_option autoImplicit false

namespace KernelSymbols

inductive ValueOption
  | input
  | output
  | excludePrefix
  | logLevel
deriving DecidableEq, Repr

inductive Switch
  | skipNestedFunctions
  | help
  | version
deriving DecidableEq, Repr

inductive Parameter
  | option (option : ValueOption)
  | switch (switch : Switch)
deriving DecidableEq, Repr

namespace Parameter

def all : List Parameter :=
  [.option .input, .option .output, .option .excludePrefix, .option .logLevel,
    .switch .skipNestedFunctions, .switch .help, .switch .version]

def long : Parameter → Text
  | .option .input => "input".toList
  | .option .output => "output".toList
  | .option .excludePrefix => "exclude-prefix".toList
  | .option .logLevel => "log-level".toList
  | .switch .skipNestedFunctions => "skip-nested-functions".toList
  | .switch .help => "help".toList
  | .switch .version => "version".toList

def letter? : Parameter → Option Char
  | .option .input => some 'i'
  | .option .output => some 'o'
  | .switch .help => some 'h'
  | .switch .version => some 'V'
  | _ => none

def display (parameter : Parameter) : Text :=
  "--".toList ++ parameter.long ++
    match parameter with
    | .option .input => " <INPUT>".toList
    | .option .output => " <OUTPUT>".toList
    | .option .excludePrefix => " <PREFIX>".toList
    | .option .logLevel => " <LOG_LEVEL>".toList
    | .switch _ => []

def ofLong? (name : Text) : Option Parameter := all.find? fun p => p.long = name

def ofLetter? (letter : Char) : Option Parameter := all.find? fun p => p.letter? = some letter

theorem ofLong?_long (parameter : Parameter) : ofLong? parameter.long = some parameter := by
  rcases parameter with option | switch
  · cases option <;> decide
  · cases switch <;> decide

theorem ofLetter?_letter {parameter : Parameter} {letter : Char}
    (h : parameter.letter? = some letter) : ofLetter? letter = some parameter := by
  rcases parameter with option | switch
  · cases option <;> cases h <;> decide
  · cases switch <;> cases h <;> decide

theorem long_ne_nil (parameter : Parameter) : parameter.long ≠ [] := by
  rcases parameter with option | switch
  · cases option <;> decide
  · cases switch <;> decide

theorem equals_not_mem_long (parameter : Parameter) : '=' ∉ parameter.long := by
  rcases parameter with option | switch
  · cases option <;> decide
  · cases switch <;> decide

theorem letter_ne_hyphen {parameter : Parameter} {letter : Char}
    (lettered : parameter.letter? = some letter) : letter ≠ '-' := by
  rintro rfl
  rcases parameter with option | switch
  · cases option <;> cases lettered
  · cases switch <;> cases lettered

end Parameter

end KernelSymbols
