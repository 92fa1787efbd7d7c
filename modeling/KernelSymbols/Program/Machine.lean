import KernelSymbols.Buffer
import KernelSymbols.Disk.Access
import KernelSymbols.Program.Run

set_option autoImplicit false

namespace KernelSymbols

structure Machine where
  disk : Disk
  input : Supply
  output : Sink := {}
  -- In these words standard output refuses.
  outputError : Text := DiskError.noSpace.message
  -- No file can become longer than this.
  room : Option Nat := none
  reports : List Text := []
deriving DecidableEq, Repr

namespace Machine

inductive Source
  | standardInput
  | opened (supply : Supply)
deriving DecidableEq, Repr

inductive Place
  | standardOutput
  | location (location : Location)
deriving DecidableEq, Repr

structure Target where
  place : Place
  buffer : Buffer
deriving DecidableEq, Repr

def supply (machine : Machine) : Source → Supply
  | .standardInput => machine.input
  | .opened supply => supply

def sinkAt (machine : Machine) : Place → Sink
  | .standardOutput => machine.output
  | .location location =>
      match machine.disk.node? location with
      | some (.file content) => { limit := machine.room, held := content }
      | some .null => {}
      | _ => { limit := some 0 }

def target (machine : Machine) (place : Place) : Target := ⟨place, { sink := machine.sinkAt place }⟩

def hold (machine : Machine) (place : Place) (sink : Sink) : Machine :=
  match place with
  | .standardOutput => { machine with output := sink }
  | .location location => { machine with disk := machine.disk.fill location sink.held }

def explain (machine : Machine) (place : Place) (error : SinkError) : Text :=
  match error, place with
  | .nothingTaken, _ => error.message
  | _, .standardOutput => machine.outputError
  | _, .location _ => DiskError.noSpace.message

def createFile (machine : Machine) (path : Text) : Except Text Target × Machine :=
  match machine.disk.create path with
  | .ok (disk, location) =>
      let machine := { machine with disk }
      (.ok (machine.target (.location location)), machine)
  | .error error => (.error error.message, machine)

def write (machine : Machine) (target : Target) (bytes : Bytes) : Except Text Target × Machine :=
  let (buffer, result) := target.buffer.write bytes
  ((result.mapError (machine.explain target.place)).map fun _ => { target with buffer },
    machine.hold target.place buffer.sink)

def flush (machine : Machine) (target : Target) : Except Text Unit × Machine :=
  let (buffer, result) := target.buffer.flush
  (result.mapError (machine.explain target.place), machine.hold target.place buffer.sink)

def addReport (machine : Machine) (line : Text) : Machine :=
  { machine with reports := machine.reports ++ [line] }

/-- A run that does not end gives nothing back. -/
abbrev Action := OptionT (StateM Machine)

def act {α : Type} (step : Machine → α × Machine) : Action α := OptionT.lift step

def host : Host Action Source Target where
  standardInput := .standardInput
  standardOutput := act fun machine => (machine.target .standardOutput, machine)
  openFile path := act fun machine =>
    (((machine.disk.openFile path).map Source.opened).mapError DiskError.message, machine)
  createFile path := act fun machine => machine.createFile path
  feed excludes reader source := fun machine =>
    ((machine.supply source).feed excludes reader, machine)
  write target text := act fun machine => machine.write target (Utf8.encode text)
  flush target := act fun machine => machine.flush target
  report line := act fun machine => ((), machine.addReport line)

def run (machine : Machine) (arguments : List Text) (givenFilter : Option Text) :
    Option UInt8 × Machine :=
  Program.run host arguments givenFilter machine

def reportLines (machine : Machine) : List Text := machine.reports.flatMap Text.lines

end Machine

end KernelSymbols
