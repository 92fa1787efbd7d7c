import KernelSymbols.Proofs.Program.Product

set_option autoImplicit false

namespace KernelSymbols.Machine

open Listing

-- What stands in the way of a table before anything is written.
inductive Obstacle (machine : Machine) (settings : Settings) : Prop
  | endless (unending : machine.listing settings.input = none)
  | input {message : Text} (unread : machine.listing settings.input = some (.error message))
  | line {bytes line : Bytes} (read : machine.listing settings.input = some (.ok bytes))
      (member : line ∈ lines bytes) (fatal : isFatal settings.omits line = true)
  | output {path : Text} {error : DiskError} (given : settings.output = some path)
      (refused : machine.disk.create path = .error error)

theorem leave_of_reads {machine : Machine} {settings : Settings} {bytes : Bytes}
    (obstacle : machine.Obstacle settings) (reads : machine.Reads settings bytes) (text : Bytes) :
    ∃ failure, machine.leave settings.output text = (.error failure, machine) := by
  obtain ⟨read, sound⟩ := reads
  cases obstacle with
  | endless unending =>
      rw [read] at unending
      cases unending
  | input unread =>
      rw [read] at unread
      cases unread
  | line again member fatal =>
      rw [read] at again
      cases again
      rw [sound _ member] at fatal
      cases fatal
  | output given refused =>
      rw [given, leave, destination, refused]
      exact ⟨_, rfl⟩

theorem produce_of_obstacle {machine : Machine} {settings : Settings}
    (obstacle : machine.Obstacle settings) :
    (machine.produce settings).1.map exitCode =
        (machine.listing settings.input).map (fun _ => 1) ∧
      (machine.produce settings).2 = machine := by
  cases read : machine.listing settings.input with
  | none =>
      rw [produce_of_endless read]
      exact ⟨rfl, rfl⟩
  | some result =>
      have failed : ∃ failure, machine.produce settings = (some (.error failure), machine) := by
        by_cases sound : ∃ bytes, machine.Reads settings bytes
        · obtain ⟨bytes, reads⟩ := sound
          obtain ⟨failure, refused⟩ :=
            leave_of_reads obstacle reads (tableBytes settings.omits bytes)
          rw [produce_of_reads reads, refused]
          exact ⟨failure, rfl⟩
        · have ended : machine.listing settings.input ≠ none := by simp [read]
          exact produce_of_not_reads ended (not_exists.mp sound)
      obtain ⟨failure, stopped⟩ := failed
      rw [stopped]
      exact ⟨rfl, rfl⟩

theorem exists_reads {machine : Machine} {settings : Settings}
    (clear : ¬ machine.Obstacle settings) : ∃ bytes, machine.Reads settings bytes := by
  cases read : machine.listing settings.input with
  | none => exact absurd (.endless read) clear
  | some result =>
      cases result with
      | error message => exact absurd (.input read) clear
      | ok bytes =>
          refine ⟨bytes, read, ?_⟩
          intro line member
          by_contra fatal
          exact clear (.line read member (by simpa using fatal))

theorem run_of_obstacle {machine : Machine} {arguments : List Text} {settings : Settings}
    (parsed : CommandLine.parse arguments = .ok settings) (obstacle : machine.Obstacle settings)
    (givenFilter : Option Text) :
    (machine.run arguments givenFilter).1 =
        (machine.listing settings.input).map (fun _ => 1) ∧
      (machine.run arguments givenFilter).2.disk = machine.disk ∧
      (machine.run arguments givenFilter).2.output = machine.output := by
  have same : machine.unreported.Obstacle settings := by
    cases obstacle with
    | endless unending => exact .endless unending
    | input unread => exact .input unread
    | line read member fatal => exact .line read member fatal
    | output given refused => exact .output given refused
  obtain ⟨code, after⟩ := produce_of_obstacle same
  obtain ⟨exit, disk, output⟩ := run_of_parsed parsed givenFilter machine
  rw [after] at disk output
  exact ⟨exit.trans code, disk, output⟩

theorem disk_run_of_stop {arguments : List Text} {stop : Stop}
    (parsed : CommandLine.parse arguments = .error stop) (givenFilter : Option Text)
    (machine : Machine) : (machine.run arguments givenFilter).2.disk = machine.disk := by
  by_cases shown : ∀ error, stop ≠ .usage error
  · rw [run_of_stop parsed shown]
    rfl
  · obtain ⟨error, rfl⟩ : ∃ error, stop = .usage error := by simpa using shown
    rw [run_of_usage parsed]
    rfl

theorem run_changes_only_after_reading (machine : Machine) (arguments : List Text)
    (givenFilter : Option Text) :
    let ended := machine.run arguments givenFilter
    (∀ stop, CommandLine.parse arguments = .error stop → ended.2.disk = machine.disk) ∧
      (∀ settings, CommandLine.parse arguments = .ok settings → machine.Obstacle settings →
        ended.1 = (machine.listing settings.input).map (fun _ => 1) ∧
          ended.2.disk = machine.disk ∧ ended.2.output = machine.output) ∧
      (ended.2.disk ≠ machine.disk →
        ∃ settings bytes path place, CommandLine.parse arguments = .ok settings ∧
          machine.Reads settings bytes ∧ settings.output = some path ∧
            machine.disk.create path = .ok place) := by
  intro ended
  refine ⟨fun stop stopped => disk_run_of_stop stopped givenFilter machine,
    fun settings parsed obstacle => run_of_obstacle parsed obstacle givenFilter, ?_⟩
  intro changed
  cases parsed : CommandLine.parse arguments with
  | error stop => exact absurd (disk_run_of_stop parsed givenFilter machine) changed
  | ok settings =>
      have clear : ¬ machine.Obstacle settings := by
        intro obstacle
        exact changed (run_of_obstacle parsed obstacle givenFilter).2.1
      obtain ⟨bytes, reads⟩ := exists_reads clear
      cases given : settings.output with
      | none =>
          obtain ⟨-, disk, -⟩ := run_of_parsed parsed givenFilter machine
          rw [produce_of_reads (unreported_reads.mpr reads), given] at disk
          exact absurd disk changed
      | some path =>
          cases created : machine.disk.create path with
          | error error => exact absurd (.output given created) clear
          | ok place => exact ⟨settings, bytes, path, place, rfl, reads, given, created⟩

-- Here the listing is to be replaced by its own table, but the second line has no size.
theorem run_changes_nothing_in_place :
    let listing := Utf8.encode "1 2 T a\n3 zz T b\n".toList
    let machine : Machine :=
      { disk := ⟨[], [(["f".toList], .file listing)]⟩, input := .finite [] }
    let arguments := ["-i".toList, "f".toList, "-o".toList, "f".toList]
    let settings : Settings := { input := some "f".toList, output := some "f".toList }
    CommandLine.parse arguments = .ok settings ∧ machine.Obstacle settings ∧
      (machine.run arguments none).1 = some 1 ∧
      (machine.run arguments none).2.disk = machine.disk ∧
      (machine.run arguments none).2.output = machine.output := by
  intro listing machine arguments settings
  have parsed : CommandLine.parse arguments = .ok settings := by decide
  have read : machine.listing settings.input = some (.ok listing) := by rfl
  have obstacle : machine.Obstacle settings := by
    apply Obstacle.line read
    · show Utf8.encode "3 zz T b".toList ∈ _
      decide +kernel
    · decide +kernel
  obtain ⟨-, obstructed, -⟩ := run_changes_only_after_reading machine arguments none
  obtain ⟨code, disk, output⟩ := obstructed settings parsed obstacle
  rw [read, Option.map_some] at code
  exact ⟨parsed, obstacle, code, disk, output⟩

end KernelSymbols.Machine
