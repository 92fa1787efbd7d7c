import KernelSymbols.CommandLine.Parse
import KernelSymbols.Fragment
import KernelSymbols.Program.Events
import KernelSymbols.Program.Failure
import KernelSymbols.Program.Host

set_option autoImplicit false

namespace KernelSymbols.Program

variable {m : Type → Type} [Monad m] {Source Target : Type} (host : Host m Source Target)

def log (filter : Log.Filter) (event : Log.Event) : m Unit :=
  if filter.allows event then host.report event.line else pure ()

def openInput : Option Text → m (Except Failure Source)
  | none => pure (.ok host.standardInput)
  | some path => do
      let opened ← host.openFile path
      return opened.mapError (.openInput path)

def openOutput : Option Text → m (Except Failure Target)
  | none => do
      let target ← host.standardOutput
      return .ok target
  | some path => do
      let created ← host.createFile path
      return created.mapError (.createOutput path)

def readListing (excludes : Text → Bool) (source : Source) : m (Except Failure Collector) := do
  let reader ← host.feed excludes (Reader.begin {}) source
  match reader.finish excludes with
  | (collector, .ok ()) => return .ok collector
  | (_, .error error) => return .error (.readListing error)

def writePieces : List Text → Target → m (Except Text Unit)
  | [], target => host.flush target
  | piece :: rest, target => do
      match ← host.write target piece with
      | .error cause => return .error cause
      | .ok target => writePieces rest target

def writeTable (table : SymbolTable) (target : Target) : m (Except Failure Unit) := do
  let written ← writePieces host (Fragment.pieces table) target
  return written.mapError .writeTable

def announce (filter : Log.Filter) (exclusion : Exclusion) : m Unit :=
  if exclusion.isEmpty then pure () else log host filter exclusion.event

def deliver (output : Option Text) (filter : Log.Filter) (collector : Collector) :
    m (Except Failure Unit) := do
  log host filter collector.tally.event
  match ← openOutput host output with
  | .error failure => return .error failure
  | .ok target =>
      log host filter collector.table.event
      writeTable host collector.table target

def generate (settings : Settings) (filter : Log.Filter) : m (Except Failure Unit) := do
  announce host filter settings.exclusion
  match ← openInput host settings.input with
  | .error failure => return .error failure
  | .ok source =>
      match ← readListing host settings.exclusion.excludes source with
      | .error failure => return .error failure
      | .ok collector => deliver host settings.output filter collector

def printOut (message : Text) : m Unit := do
  let target ← host.standardOutput
  let _ ← writePieces host [message] target

def run (arguments : List Text) (givenFilter : Option Text) : m UInt8 := do
  match CommandLine.parse arguments with
  | .error (.usage error) =>
      host.report error.report
      return 2
  | .error stop =>
      printOut host stop.message
      return stop.exitCode
  | .ok settings =>
      let (filter, complaints) := Log.Filter.choose givenFilter settings.logLevel
      complaints.forM host.report
      match ← generate host settings filter with
      | .ok () => return 0
      | .error failure =>
          failure.report.forM host.report
          return 1

end KernelSymbols.Program
