import KernelSymbols.Listing.Error
import KernelSymbols.Listing.Verdict
import KernelSymbols.SymbolTable
import KernelSymbols.Text.Utf8

set_option autoImplicit false

namespace KernelSymbols

structure Tally where
  lines : Nat := 0
  retained : Nat := 0
  malformed : Nat := 0
  excluded : Nat := 0
deriving DecidableEq, Repr

structure Collector where
  table : SymbolTable := {}
  tally : Tally := {}
deriving DecidableEq, Repr

abbrev Outcome := Except ListingError Unit

/-- What is reported of a line with this verdict and this number. -/
def Verdict.outcome (line : Nat) : Verdict → Outcome
  | .faulty fault => .error (.field line fault)
  | _ => .ok ()

namespace Collector

def countLine (collector : Collector) : Collector :=
  { collector with tally.lines := collector.tally.lines + 1 }

def note (collector : Collector) : Verdict → Collector
  | .malformed => { collector with tally.malformed := collector.tally.malformed + 1 }
  | .excluded => { collector with tally.excluded := collector.tally.excluded + 1 }
  | .retained symbol =>
      { collector with
        table := collector.table.push symbol
        tally.retained := collector.tally.retained + 1 }
  | .faulty _ => collector

def addLine (excludes : Text → Bool) (collector : Collector) (line : Text) :
    Collector × Outcome :=
  let verdict := Verdict.ofLine excludes line
  (collector.countLine.note verdict, verdict.outcome (collector.tally.lines + 1))

def addBytes (excludes : Text → Bool) (collector : Collector) (line : Bytes) :
    Collector × Outcome :=
  match Utf8.decode line with
  | none => (collector, .error (.encoding (collector.tally.lines + 1)))
  | some line => collector.addLine excludes line

def addAll (excludes : Text → Bool) : Collector → List Bytes → Collector × Outcome
  | collector, [] => (collector, .ok ())
  | collector, line :: rest =>
      match collector.addBytes excludes line with
      | (collector, .ok ()) => collector.addAll excludes rest
      | reported => reported

theorem addBytes_encode (excludes : Text → Bool) (collector : Collector) (line : Text) :
    collector.addBytes excludes (Utf8.encode line) = collector.addLine excludes line := by
  simp [addBytes, Utf8.decode_encode]

theorem lines_addLine (excludes : Text → Bool) (collector : Collector) (line : Text) :
    (collector.addLine excludes line).1.tally.lines = collector.tally.lines + 1 := by
  rw [addLine]
  cases Verdict.ofLine excludes line <;> rfl

end Collector

end KernelSymbols
