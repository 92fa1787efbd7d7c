import KernelSymbols.Proofs.Program.Product

set_option autoImplicit false

namespace KernelSymbols

open Listing

theorem Listing.fragment_ne_nil (entries : List Fields) : fragment entries ≠ [] := by
  have closing : "\x7d;\n".toList ≠ [] := by decide
  unfold fragment
  exact List.append_ne_nil_of_right_ne_nil _ closing

theorem Listing.tableBytes_ne_nil (excludes : Text → Bool) (bytes : Bytes) :
    tableBytes excludes bytes ≠ [] := by
  intro empty
  have nothing : Utf8.decode [] = some [] := rfl
  rw [← empty, tableBytes, Utf8.decode_encode] at nothing
  exact fragment_ne_nil _ (Option.some.inj nothing)

namespace Machine

-- The output can be opened, has room for the text, and can be flushed.
def Takes (machine : Machine) (text : Bytes) : Option Text → Prop
  | none => machine.output.HasRoom text ∧ machine.output.flushFails = false
  | some path => ∃ created location, machine.disk.create path = .ok (created, location) ∧
      machine.disk.node? location ≠ some .full ∧
        (machine.disk.IsRegular location → ∀ most ∈ machine.room, text.length ≤ most)

theorem mapError_eq_ok_iff {α β : Type} {result : Except α Unit} {f : α → β} :
    result.mapError f = .ok () ↔ result = .ok () := by
  cases result with
  | error error => exact iff_of_false nofun nofun
  | ok done => exact iff_of_true rfl rfl

section Receive

variable {machine : Machine} {place : Place} {text : Bytes}

theorem unreported_takes {output : Option Text} :
    machine.unreported.Takes text output ↔ machine.Takes text output := by
  cases output <;> exact Iff.rfl

theorem receive_eq_ok_iff :
    (machine.receive place [text]).1 = .ok () ↔
      (machine.sinkAt place).HasRoom text ∧ (machine.sinkAt place).flushFails = false := by
  have written : ((machine.sinkAt place).deliver [text]).2 = .ok () ↔
      (machine.sinkAt place).HasRoom [text].flatten ∧
        (machine.sinkAt place).flushFails = false := by
    rw [Sink.deliver_eq_write]
    exact Sink.write_eq_ok_iff
  rw [List.flatten_singleton] at written
  exact mapError_eq_ok_iff.trans written

theorem receive_of_ok (received : (machine.receive place [text]).1 = .ok ()) :
    (machine.receive place [text]).2 =
      machine.hold place { machine.sinkAt place with
        held := (machine.sinkAt place).held ++ text
        flushes := (machine.sinkAt place).flushes + 1 } := by
  have room : (machine.sinkAt place).HasRoom [text].flatten := by
    rw [List.flatten_singleton]
    exact (receive_eq_ok_iff.mp received).1
  have written : ((machine.sinkAt place).deliver [text]).1 = _ :=
    congrArg Prod.fst ((Sink.deliver_eq_write _ _).trans (Sink.write_of_room room))
  rw [List.flatten_singleton] at written
  exact congrArg (machine.hold place) written

end Receive

section Created

variable {machine : Machine} {path : Text} {created : Disk} {location : Location}

theorem leave_created (made : machine.disk.create path = .ok (created, location)) (text : Bytes) :
    let opened := { machine with disk := created }
    machine.leave (some path) text =
      ((opened.receive (.location location) [text]).1.mapError .writeTable,
        (opened.receive (.location location) [text]).2) := by
  rw [leave, destination, made]

theorem sinkAt_of_regular (regular : machine.disk.IsRegular location) :
    ({ machine with disk := machine.disk.put location (.file []) } : Machine).sinkAt
      (.location location) = { limit := machine.room } := by
  rw [sinkAt, Disk.node?_put machine.disk regular.ne_nil]

theorem created_cases (made : machine.disk.create path = .ok (created, location)) :
    let opened := { machine with disk := created }
    (machine.disk.node? location = some .null ∧ opened = machine) ∨
      (machine.disk.node? location = some .full ∧ opened = machine) ∨
      (machine.disk.IsRegular location ∧
        opened = { machine with disk := machine.disk.put location (.file []) }) := by
  obtain ⟨-, ⟨null, rfl⟩ | ⟨full, rfl⟩ | ⟨regular, rfl⟩⟩ := Disk.create_eq_ok made
  · exact .inl ⟨null, rfl⟩
  · exact .inr (.inl ⟨full, rfl⟩)
  · exact .inr (.inr ⟨regular, rfl⟩)

end Created

theorem leave_eq_ok_iff {machine : Machine} {output : Option Text} {text : Bytes}
    (nonempty : text ≠ []) :
    (machine.leave output text).1 = .ok () ↔ machine.Takes text output := by
  cases output with
  | none => exact mapError_eq_ok_iff.trans receive_eq_ok_iff
  | some path =>
      cases made : machine.disk.create path with
      | error error => simp [leave, destination, made, Takes]
      | ok place =>
          obtain ⟨created, location⟩ := place
          have taken : machine.Takes text (some path) ↔
              machine.disk.node? location ≠ some .full ∧
                (machine.disk.IsRegular location → ∀ most ∈ machine.room, text.length ≤ most) := by
            simp [Takes, made]
          rw [leave_created made, mapError_eq_ok_iff, receive_eq_ok_iff, taken]
          rcases created_cases made with ⟨null, opened⟩ | ⟨full, opened⟩ | ⟨regular, opened⟩
          · have device := Disk.not_isRegular null (by simp)
            rw [opened, sinkAt, null]
            simp [Sink.HasRoom, device]
          · rw [opened, sinkAt, full]
            simp [Sink.HasRoom, nonempty]
          · have room : machine.disk.node? location ≠ some .full := by
              intro full
              obtain ⟨content, file⟩ := regular _ full
              cases file
            rw [opened, sinkAt_of_regular regular]
            simp [Sink.HasRoom, room, regular]

-- At a regular file the text stands alone, and is read back under the same path.
def Delivered (before after : Machine) (text : Bytes) : Option Text → Prop
  | none => after.output.held = before.output.held ++ text ∧
      after.output.flushes = before.output.flushes + 1 ∧ after.disk = before.disk
  | some path =>
      after.output = before.output ∧
        ∃ location, before.disk.Names path location ∧
          (before.disk.IsRegular location →
            after.disk.node? location = some (.file text) ∧
              after.disk.openFile path = .ok (.finite [.data text])) ∧
          (¬ before.disk.IsRegular location → after.disk = before.disk) ∧
          ∀ other, other ≠ location → after.disk.node? other = before.disk.node? other

theorem delivered_of_put {machine : Machine} {path : Text} {location : Location}
    (names : machine.disk.Names path location) (regular : machine.disk.IsRegular location)
    (text : Bytes) :
    machine.Delivered { machine with disk := machine.disk.put location (.file text) } text
      (some path) := by
  have held := Disk.node?_put machine.disk regular.ne_nil (.file text)
  have named := names.put regular.ne_directory (.file text)
  exact ⟨rfl, location, names, fun _ => ⟨held, Disk.openFile_of_names named held⟩,
    fun irregular => absurd regular irregular,
    fun other apart => Disk.node?_put_of_ne machine.disk apart (.file text)⟩

theorem delivered_of_device {machine : Machine} {path : Text} {location : Location} {node : Node}
    (names : machine.disk.Names path location) (present : machine.disk.node? location = some node)
    (device : ∀ content, node ≠ .file content) (sink : Sink) (text : Bytes) :
    machine.Delivered (machine.hold (.location location) sink) text (some path) := by
  have irregular := Disk.not_isRegular present device
  rw [hold, Disk.fill_of_device present device]
  exact ⟨rfl, location, names, fun regular => absurd regular irregular, fun _ => rfl,
    fun _ _ => rfl⟩

theorem delivered_leave {machine : Machine} {output : Option Text} {text : Bytes}
    (left : (machine.leave output text).1 = .ok ()) :
    machine.Delivered (machine.leave output text).2 text output := by
  cases output with
  | none =>
      have received := receive_of_ok (mapError_eq_ok_iff.mp left)
      rw [show (machine.leave none text).2 = _ from received]
      exact ⟨rfl, rfl, rfl⟩
  | some path =>
      cases made : machine.disk.create path with
      | error error => simp [leave, destination, made] at left
      | ok place =>
          obtain ⟨created, location⟩ := place
          obtain ⟨names, -⟩ := Disk.create_eq_ok made
          rw [leave_created made] at left ⊢
          have received := receive_of_ok (mapError_eq_ok_iff.mp left)
          dsimp only at received ⊢
          rw [received]
          rcases created_cases made with ⟨null, opened⟩ | ⟨full, opened⟩ | ⟨regular, opened⟩
          · rw [opened]
            exact delivered_of_device names null (by simp) _ text
          · rw [opened]
            exact delivered_of_device names full (by simp) _ text
          · rw [opened, sinkAt_of_regular regular, hold, Disk.fill_put_file regular]
            exact delivered_of_put names regular text

theorem exitCode_eq_zero_iff {result : Except Failure Unit} :
    exitCode result = 0 ↔ result = .ok () := by
  rcases result with failure | _ <;> simp [exitCode]

theorem map_exitCode_eq_zero_iff {result : Option (Except Failure Unit)} :
    result.map exitCode = some 0 ↔ result = some (.ok ()) := by
  simp [exitCode_eq_zero_iff]

section Run

variable (machine : Machine) {arguments : List Text} {settings : Settings}
  (parsed : CommandLine.parse arguments = .ok settings) (givenFilter : Option Text)
include parsed

theorem exit_run_eq_none_iff :
    (machine.run arguments givenFilter).1 = none ↔ machine.Endless settings := by
  rw [(run_of_parsed parsed givenFilter machine).1, Option.map_eq_none_iff, endless_iff]
  exact produce_eq_none_iff

theorem exit_run_eq_zero_iff :
    (machine.run arguments givenFilter).1 = some 0 ↔
      ∃ bytes, machine.Reads settings bytes ∧
        machine.Takes (tableBytes settings.omits bytes) settings.output := by
  rw [(run_of_parsed parsed givenFilter machine).1, map_exitCode_eq_zero_iff]
  constructor
  · intro produced
    obtain ⟨bytes, reads⟩ := exists_reads_of_ok produced
    rw [produce_of_reads reads] at produced
    have takes := (leave_eq_ok_iff (tableBytes_ne_nil _ bytes)).mp (Option.some.inj produced)
    exact ⟨bytes, unreported_reads.mp reads, unreported_takes.mp takes⟩
  · intro possible
    obtain ⟨bytes, reads, takes⟩ := possible
    have left := (leave_eq_ok_iff (tableBytes_ne_nil _ bytes)).mpr (unreported_takes.mpr takes)
    rw [produce_of_reads (unreported_reads.mpr reads)]
    exact congrArg some left

theorem delivered_run (succeeded : (machine.run arguments givenFilter).1 = some 0) :
    ∃ bytes, machine.Reads settings bytes ∧
      machine.Delivered (machine.run arguments givenFilter).2 (tableBytes settings.omits bytes)
        settings.output := by
  obtain ⟨bytes, reads, takes⟩ := (exit_run_eq_zero_iff machine parsed givenFilter).mp succeeded
  have left := (leave_eq_ok_iff (tableBytes_ne_nil _ bytes)).mpr (unreported_takes.mpr takes)
  have delivered := delivered_leave left
  have same : (machine.run arguments givenFilter).2.unreported =
      (machine.unreported.produce settings).2 :=
    congrArg Prod.snd (run_unreported parsed givenFilter machine)
  rw [produce_of_reads (unreported_reads.mpr reads)] at same
  dsimp only at same
  rw [← same] at delivered
  refine ⟨bytes, reads, ?_⟩
  cases given : settings.output <;> rw [given] at delivered <;> exact delivered

end Run

theorem run_delivers (machine : Machine) {arguments : List Text} {settings : Settings}
    (parsed : CommandLine.parse arguments = .ok settings) (givenFilter : Option Text) :
    let ended := machine.run arguments givenFilter
    (ended.1 = some 0 ↔
        ∃ bytes, machine.listing settings.input = some (.ok bytes) ∧
          Sound settings.omits (lines bytes) ∧
            machine.Takes (tableBytes settings.omits bytes) settings.output) ∧
      (ended.1 = none ↔ machine.Endless settings) ∧
      (∀ source location, settings.input = some source → machine.disk.Names source location →
        machine.disk.node? location = some .full → ended.1 = none) ∧
      (ended.1 = some 0 →
        ∃ bytes, machine.listing settings.input = some (.ok bytes) ∧
          machine.Delivered ended.2 (tableBytes settings.omits bytes) settings.output) ∧
      (ended.1 = some 0 →
        ∀ source path location content, settings.input = some source →
          settings.output = some path → machine.disk.Names source location →
            machine.disk.Names path location →
              machine.disk.node? location = some (.file content) →
                ended.2.disk.node? location =
                  some (.file (tableBytes settings.omits content))) := by
  intro ended
  have endless := exit_run_eq_none_iff machine parsed givenFilter
  refine ⟨?_, endless, ?_, ?_, ?_⟩
  · simpa only [Reads, and_assoc] using exit_run_eq_zero_iff machine parsed givenFilter
  · intro source location given origin full
    rw [endless, endless_iff, given, listing, Disk.openFile_of_names origin full]
    rfl
  · intro succeeded
    obtain ⟨bytes, reads, delivered⟩ := delivered_run machine parsed givenFilter succeeded
    exact ⟨bytes, reads.1, delivered⟩
  · intro succeeded source path location content given goal origin target file
    obtain ⟨bytes, reads, delivered⟩ := delivered_run machine parsed givenFilter succeeded
    have old : bytes = content := by
      have read := reads.1
      rw [given, listing, Disk.openFile_of_names origin file] at read
      simpa [Disk.contents, Supply.gather, Chunk.gather, Except.map] using read.symm
    rw [goal] at delivered
    obtain ⟨-, named, names, held, -, -⟩ := delivered
    cases target.unique names
    have regular := Disk.isRegular_of_file file
    rw [← old]
    exact (held regular).1

-- Here the listing is replaced by its own table, under another name of the same file.
theorem run_delivers_in_place :
    let content := Utf8.encode "1 2 T a\nno symbol".toList
    let machine : Machine :=
      { disk := ⟨[], [(["d".toList], .directory), (["f".toList], .file content)]⟩
        input := .zeros
        room := some 137 }
    let arguments := ["-i".toList, "f".toList, "-o".toList, "d/../f".toList]
    let settings : Settings := { input := some "f".toList, output := some "d/../f".toList }
    CommandLine.parse arguments = .ok settings ∧ (machine.run arguments none).1 = some 0 ∧
      (machine.run arguments none).2.disk.node? ["f".toList] =
        some (.file (tableBytes settings.omits content)) := by
  intro content machine arguments settings
  have parsed : CommandLine.parse arguments = .ok settings := by decide
  have succeeded : (machine.run arguments none).1 = some 0 := by decide +kernel
  have origin : machine.disk.Names "f".toList ["f".toList] := by
    have found : machine.disk.parentOf (Path.ofText "f".toList) = .ok [] := by decide
    apply Disk.Names.within _ found <;> decide
  have target : machine.disk.Names "d/../f".toList ["f".toList] := by
    have found : machine.disk.parentOf (Path.ofText "d/../f".toList) = .ok [] := by decide
    apply Disk.Names.within _ found <;> decide
  have file : machine.disk.node? ["f".toList] = some (.file content) := by decide
  refine ⟨parsed, succeeded, ?_⟩
  exact (run_delivers machine parsed none).2.2.2.2 succeeded "f".toList "d/../f".toList ["f".toList]
    content rfl rfl origin target file

end Machine

end KernelSymbols
