import KernelSymbols.CommandLine.Parameter
import KernelSymbols.Exclusion

set_option autoImplicit false

namespace KernelSymbols

structure Settings where
  input : Option Text := none
  output : Option Text := none
  excludedPrefixes : List Text := []
  skipNestedFunctions : Bool := false
  givenLogLevel : Option Text := none
deriving DecidableEq, Repr

namespace Settings

def logLevel (settings : Settings) : Text := settings.givenLogLevel.getD "warn".toList

def exclusion (settings : Settings) : Exclusion :=
  (if settings.skipNestedFunctions then Exclusion.nestedFunctions else {}).pushAll
    settings.excludedPrefixes

/-- Only the excluded prefixes may be given more than once. -/
def isTaken (settings : Settings) : Parameter → Bool
  | .option .input => settings.input.isSome
  | .option .output => settings.output.isSome
  | .option .excludePrefix => false
  | .option .logLevel => settings.givenLogLevel.isSome
  | .switch .skipNestedFunctions => settings.skipNestedFunctions
  | .switch _ => false

def set (settings : Settings) (value : Text) : ValueOption → Settings
  | .input => { settings with input := some value }
  | .output => { settings with output := some value }
  | .excludePrefix =>
      { settings with excludedPrefixes := settings.excludedPrefixes ++ [value] }
  | .logLevel => { settings with givenLogLevel := some value }

end Settings

end KernelSymbols
