import KernelSymbols.CommandLine.Parameter
import KernelSymbols.Text.ControlSequence

set_option autoImplicit false

namespace KernelSymbols

inductive UsageError
  | missingValue (option : ValueOption)
  | repeated (parameter : Parameter)
  | unexpectedValue (switch : Switch) (value : Text)
  | unexpectedArgument (argument : Text)
deriving DecidableEq, Repr

namespace UsageError

/-- Says what is wrong. Words of the user stand in it as `shown` gives them back. -/
def wording (shown : Text → Text) : UsageError → Text
  | .missingValue option =>
      "error: a value is required for '".toList ++ (Parameter.option option).display ++
        "' but none was supplied".toList
  | .repeated parameter =>
      "error: the argument '".toList ++ parameter.display ++
        "' cannot be used multiple times".toList
  | .unexpectedValue switch value =>
      "error: unexpected value '".toList ++ shown value ++ "' for '".toList ++
        (Parameter.switch switch).display ++ "' found; no more were expected".toList
  | .unexpectedArgument argument =>
      "error: unexpected argument '".toList ++ shown argument ++ "' found".toList

def message (error : UsageError) : Text := error.wording Text.plain

def report (error : UsageError) : Text := error.wording Text.printed

end UsageError

inductive Stop
  | help
  | version
  | usage (error : UsageError)
deriving DecidableEq, Repr

def helpText : Text :=
  [ "Generate a kernel symbol table from an `nm -S` style listing",
    "",
    "Usage: gen-symtab [OPTIONS]",
    "",
    "Options:",
    "  -i, --input <INPUT>            Read the listing from a file instead of stdin",
    "  -o, --output <OUTPUT>          Write the table to a file instead of stdout",
    "      --exclude-prefix <PREFIX>  Drop symbols whose name starts with PREFIX (repeatable)",
    "      --skip-nested-functions    Drop compiler-generated nested-function labels (__func__.*)",
    "      --log-level <LOG_LEVEL>    Set the logging level [default: warn]",
    "  -h, --help                     Print help",
    "  -V, --version                  Print version" ].flatMap fun line => line.toList ++ ['\n']

def versionText : Text := "symtab 0.1.0\n".toList

def Stop.message : Stop → Text
  | .help => helpText
  | .version => versionText
  | .usage error => error.message

def Stop.exitCode : Stop → UInt8
  | .usage _ => 2
  | _ => 0

end KernelSymbols
