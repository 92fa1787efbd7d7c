import KernelSymbols.Program.Machine

set_option autoImplicit false

namespace KernelSymbols.Machine

section Bind

variable {α β : Type}

theorem bind_apply (first : Action α) (next : α → Action β) (machine : Machine) :
    (first >>= next) machine =
      match first machine with
      | (some value, after) => next value after
      | (none, after) => (none, after) := by
  have split : (first >>= next) machine =
      (match (first machine).1 with
        | some value => (next value).run
        | none => (pure none : StateM Machine (Option β))) (first machine).2 := rfl
  rw [split]
  rcases first machine with ⟨_ | value, after⟩ <;> rfl

variable {first : Action α} {machine after : Machine}

theorem bind_of_some {value : α} (done : first machine = (some value, after))
    (next : α → Action β) : (first >>= next) machine = next value after := by
  rw [bind_apply, done]

theorem bind_of_none (endless : first machine = (none, after)) (next : α → Action β) :
    (first >>= next) machine = (none, after) := by
  rw [bind_apply, endless]

end Bind

def reported (machine : Machine) (lines : List Text) : Machine :=
  { machine with reports := machine.reports ++ lines }

theorem forM_report (lines : List Text) (machine : Machine) :
    lines.forM host.report machine = (some (), machine.reported lines) := by
  induction lines generalizing machine with
  | nil =>
      rw [reported, List.append_nil]
      rfl
  | cons line rest ih =>
      have first : host.report line machine = (some (), machine.addReport line) := rfl
      have next := ih (machine.addReport line)
      rw [addReport, reported, List.append_assoc, List.singleton_append] at next
      exact (bind_of_some first _).trans next

def logged (filter : Log.Filter) (event : Log.Event) (machine : Machine) : Machine :=
  if filter.allows event then machine.addReport event.line else machine

theorem log_host (filter : Log.Filter) (event : Log.Event) (machine : Machine) :
    Program.log host filter event machine = (some (), machine.logged filter event) := by
  unfold Program.log logged
  split <;> rfl

def announced (filter : Log.Filter) (exclusion : Exclusion) (machine : Machine) : Machine :=
  if exclusion.isEmpty then machine else machine.logged filter exclusion.event

theorem announce_host (filter : Log.Filter) (exclusion : Exclusion) (machine : Machine) :
    Program.announce host filter exclusion machine =
      (some (), machine.announced filter exclusion) := by
  unfold Program.announce announced
  split
  · rfl
  · exact log_host filter exclusion.event machine

def source (machine : Machine) : Option Text → Except Failure Source
  | none => .ok .standardInput
  | some path =>
      match machine.disk.openFile path with
      | .ok supply => .ok (.opened supply)
      | .error error => .error (.openInput path error.message)

theorem openInput_host (input : Option Text) (machine : Machine) :
    Program.openInput host input machine = (some (machine.source input), machine) := by
  cases input with
  | none => rfl
  | some path =>
      have opened : host.openFile path machine =
          (some (((machine.disk.openFile path).map Source.opened).mapError DiskError.message),
            machine) := rfl
      rw [Program.openInput, bind_of_some opened, source]
      cases machine.disk.openFile path <;> rfl

def completed (excludes : Text → Bool) (reader : Reader) : Except Failure Collector :=
  match reader.finish excludes with
  | (collector, .ok ()) => .ok collector
  | (_, .error error) => .error (.readListing error)

def collected (excludes : Text → Bool) (supply : Supply) : Option (Except Failure Collector) :=
  (supply.feed excludes (Reader.begin {})).map (completed excludes)

theorem readListing_host (excludes : Text → Bool) (source : Source) (machine : Machine) :
    Program.readListing host excludes source machine =
      (collected excludes (machine.supply source), machine) := by
  have fed : host.feed excludes (Reader.begin {}) source machine =
      ((machine.supply source).feed excludes (Reader.begin {}), machine) := rfl
  rw [Program.readListing, collected]
  cases read : (machine.supply source).feed excludes (Reader.begin {}) with
  | none =>
      rw [read] at fed
      exact bind_of_none fed _
  | some reader =>
      rw [read] at fed
      rw [bind_of_some fed, Option.map_some, completed]
      rcases reader.finish excludes with ⟨collector, (error | _)⟩ <;> rfl

def destination (machine : Machine) : Option Text → Except Failure Place × Machine
  | none => (.ok .standardOutput, machine)
  | some path =>
      match machine.disk.create path with
      | .ok (disk, location) => (.ok (.location location), { machine with disk })
      | .error error => (.error (.createOutput path error.message), machine)

theorem openOutput_host (output : Option Text) (machine : Machine) :
    Program.openOutput host output machine =
      (some ((machine.destination output).1.map (machine.destination output).2.target),
        (machine.destination output).2) := by
  cases output with
  | none => rfl
  | some path =>
      have created : host.createFile path machine =
          (some (machine.createFile path).1, (machine.createFile path).2) := rfl
      rw [Program.openOutput, bind_of_some created, createFile, destination]
      cases machine.disk.create path <;> rfl

theorem hold_hold (machine : Machine) (place : Place) (first second : Sink) :
    (machine.hold place first).hold place second = machine.hold place second := by
  cases place with
  | standardOutput => rfl
  | location location =>
      simp only [hold, Disk.fill_fill]

theorem explain_hold (machine : Machine) (place other : Place) (sink : Sink) :
    (machine.hold place sink).explain other = machine.explain other := by
  cases place <;> rfl

def receive (machine : Machine) (place : Place) (pieces : List Bytes) :
    Except Text Unit × Machine :=
  let (sink, result) := (machine.sinkAt place).deliver pieces
  (result.mapError (machine.explain place), machine.hold place sink)

theorem writePieces_host (pieces : List Text) (place : Place) (buffer : Buffer)
    (machine : Machine) :
    Program.writePieces host pieces ⟨place, buffer⟩ machine =
      (some ((buffer.deliver (pieces.map Utf8.encode)).2.mapError (machine.explain place)),
        machine.hold place (buffer.deliver (pieces.map Utf8.encode)).1.sink) := by
  induction pieces generalizing buffer machine with
  | nil => rfl
  | cons piece rest ih =>
      have step : host.write ⟨place, buffer⟩ piece machine =
          (some (machine.write ⟨place, buffer⟩ (Utf8.encode piece)).1,
            (machine.write ⟨place, buffer⟩ (Utf8.encode piece)).2) := rfl
      rw [Program.writePieces, List.map_cons, Buffer.deliver, bind_of_some step, write]
      rcases buffer.write (Utf8.encode piece) with ⟨next, (error | _)⟩
      · rfl
      · have others := ih next (machine.hold place next.sink)
        rw [hold_hold, explain_hold] at others
        exact others

theorem writePieces_target (pieces : List Text) (place : Place) (machine : Machine) :
    Program.writePieces host pieces (machine.target place) machine =
      (some (machine.receive place (pieces.map Utf8.encode)).1,
        (machine.receive place (pieces.map Utf8.encode)).2) := by
  have sunk := Buffer.seen_deliver { sink := machine.sinkAt place } (pieces.map Utf8.encode)
  have written := writePieces_host pieces place { sink := machine.sinkAt place } machine
  rw [Sink.deliver_nil_cons] at sunk
  rw [target, written, receive, ← sunk]

theorem printOut_host (message : Text) (machine : Machine) :
    Program.printOut host message machine =
      (some (), (machine.receive .standardOutput [Utf8.encode message]).2) := by
  have opened : host.standardOutput machine =
      (some (machine.target .standardOutput), machine) := rfl
  have written := writePieces_target [message] .standardOutput machine
  rw [Program.printOut, bind_of_some opened, bind_of_some written]
  rfl

theorem sinkAt_logged (filter : Log.Filter) (event : Log.Event) (machine : Machine)
    (place : Place) : (machine.logged filter event).sinkAt place = machine.sinkAt place := by
  unfold logged
  split
  · cases place <;> rfl
  · rfl

def store (machine : Machine) (place : Place) (table : SymbolTable) :
    Except Failure Unit × Machine :=
  let (result, machine) := machine.receive place ((Fragment.pieces table).map Utf8.encode)
  (result.mapError .writeTable, machine)

theorem writeTable_host (table : SymbolTable) (place : Place) (machine : Machine) :
    Program.writeTable host table (machine.target place) machine =
      (some (machine.store place table).1, (machine.store place table).2) := by
  rw [Program.writeTable, bind_of_some (writePieces_target _ place machine)]
  rfl

def deliver (machine : Machine) (output : Option Text) (filter : Log.Filter)
    (collector : Collector) : Except Failure Unit × Machine :=
  match (machine.logged filter collector.tally.event).destination output with
  | (.error failure, machine) => (.error failure, machine)
  | (.ok place, machine) =>
      (machine.logged filter collector.table.event).store place collector.table

theorem deliver_host (output : Option Text) (filter : Log.Filter) (collector : Collector)
    (machine : Machine) :
    Program.deliver host output filter collector machine =
      (some (machine.deliver output filter collector).1,
        (machine.deliver output filter collector).2) := by
  rw [Program.deliver, bind_of_some (log_host ..), bind_of_some (openOutput_host ..), deliver]
  rcases (machine.logged filter collector.tally.event).destination output with
    ⟨(failure | place), opened⟩
  · rfl
  · have same : opened.target place =
        (opened.logged filter collector.table.event).target place := by
      rw [target, target, sinkAt_logged]
    dsimp only [Except.map]
    rw [bind_of_some (log_host ..), same, writeTable_host]

def generate (machine : Machine) (settings : Settings) (filter : Log.Filter) :
    Option (Except Failure Unit) × Machine :=
  let machine := machine.announced filter settings.exclusion
  match machine.source settings.input with
  | .error failure => (some (.error failure), machine)
  | .ok source =>
      match collected settings.exclusion.excludes (machine.supply source) with
      | none => (none, machine)
      | some (.error failure) => (some (.error failure), machine)
      | some (.ok collector) =>
          (some (machine.deliver settings.output filter collector).1,
            (machine.deliver settings.output filter collector).2)

theorem generate_host (settings : Settings) (filter : Log.Filter) (machine : Machine) :
    Program.generate host settings filter machine = machine.generate settings filter := by
  rw [Program.generate, bind_of_some (announce_host ..), bind_of_some (openInput_host ..), generate]
  cases (machine.announced filter settings.exclusion).source settings.input with
  | error failure => rfl
  | ok source =>
      dsimp only
      have read := readListing_host settings.exclusion.excludes source
        (machine.announced filter settings.exclusion)
      cases collection : collected settings.exclusion.excludes
          ((machine.announced filter settings.exclusion).supply source) with
      | none =>
          rw [collection] at read
          exact bind_of_none read _
      | some result =>
          rw [collection] at read
          rw [bind_of_some read]
          cases result with
          | error failure => rfl
          | ok collector => exact deliver_host settings.output filter collector _

def exitCode : Except Failure Unit → UInt8
  | .ok () => 0
  | .error _ => 1

def closing : Option (Except Failure Unit) → List Text
  | some (.error failure) => failure.report
  | _ => []

theorem reported_nil (machine : Machine) : machine.reported [] = machine := by
  rw [reported, List.append_nil]

theorem run_of_settings {arguments : List Text} {settings : Settings}
    (parsed : CommandLine.parse arguments = .ok settings) (givenFilter : Option Text)
    (machine : Machine) :
    let chosen := Log.Filter.choose givenFilter settings.logLevel
    let ended := (machine.reported chosen.2).generate settings chosen.1
    machine.run arguments givenFilter =
      (ended.1.map exitCode, ended.2.reported (closing ended.1)) := by
  intro chosen
  have generated := generate_host settings chosen.1 (machine.reported chosen.2)
  rw [run, Program.run]
  simp only [parsed]
  rw [bind_of_some (forM_report ..)]
  generalize (machine.reported chosen.2).generate settings chosen.1 = result at generated ⊢
  rcases result with ⟨_ | failure | _, ended⟩
  · rw [bind_of_none generated]
    exact congrArg _ (reported_nil ended).symm
  · rw [bind_of_some generated]
    exact bind_of_some (forM_report ..) _
  · rw [bind_of_some generated]
    exact congrArg _ (reported_nil ended).symm

theorem run_of_usage {arguments : List Text} {error : UsageError}
    (parsed : CommandLine.parse arguments = .error (.usage error)) (givenFilter : Option Text)
    (machine : Machine) :
    machine.run arguments givenFilter = (some 2, machine.addReport error.report) := by
  rw [run, Program.run]
  simp only [parsed]
  rfl

theorem run_of_stop {arguments : List Text} {stop : Stop}
    (parsed : CommandLine.parse arguments = .error stop) (shown : ∀ error, stop ≠ .usage error)
    (givenFilter : Option Text) (machine : Machine) :
    machine.run arguments givenFilter =
      (some stop.exitCode, (machine.receive .standardOutput [Utf8.encode stop.message]).2) := by
  rw [run, Program.run]
  simp only [parsed]
  cases stop with
  | usage error => exact absurd rfl (shown error)
  | help => exact bind_of_some (printOut_host ..) _
  | version => exact bind_of_some (printOut_host ..) _

end KernelSymbols.Machine
