import KernelSymbols.Program.Steps
import KernelSymbols.Proofs.Disk.Writing
import KernelSymbols.Proofs.Reference
import KernelSymbols.Proofs.Stream

set_option autoImplicit false

namespace KernelSymbols

namespace Chunk

theorem gather_of_delivered {chunks : List Chunk}
    (delivered : ∀ chunk ∈ chunks, chunk.fails = false) :
    gather chunks = .ok (chunks.flatMap payload) := by
  induction chunks with
  | nil => rfl
  | cons chunk rest ih =>
      obtain ⟨first, others⟩ := List.forall_mem_cons.mp delivered
      cases chunk with
      | data bytes => simp [gather, ih others, payload, Except.map]
      | interrupted => simp [gather, ih others, payload]
      | failure message => cases first

theorem gather_append_failure {before : List Chunk}
    (delivered : ∀ chunk ∈ before, chunk.fails = false) (message : Text) (after : List Chunk) :
    gather (before ++ .failure message :: after) = .error message := by
  induction before with
  | nil => rfl
  | cons chunk rest ih =>
      obtain ⟨first, others⟩ := List.forall_mem_cons.mp delivered
      cases chunk with
      | data bytes => simp [gather, ih others, Except.map]
      | interrupted => simp [gather, ih others]
      | failure message => cases first

end Chunk

def Listing.tableBytes (excludes : Text → Bool) (bytes : Bytes) : Bytes :=
  Utf8.encode (fragment ((lines bytes).filterMap (kept? excludes)))

namespace Settings

def Bars (settings : Settings) (start : Text) : Prop :=
  start ∈ settings.excludedPrefixes ∨
    settings.skipNestedFunctions = true ∧ start = "__func__.".toList

def omits (settings : Settings) (name : Text) : Bool :=
  settings.excludedPrefixes.any (·.isPrefixOf name) ||
    settings.skipNestedFunctions && "__func__.".toList.isPrefixOf name

theorem omits_iff {settings : Settings} {name : Text} :
    settings.omits name = true ↔ ∃ start, settings.Bars start ∧ start <+: name := by
  simp [omits, Bars, or_and_right, exists_or, and_assoc]

theorem bars_iff {settings : Settings} {start : Text} :
    settings.Bars start ↔ start ∈ settings.exclusion.prefixes := by
  cases switched : settings.skipNestedFunctions with
  | false => simp [Bars, exclusion, switched]
  | true => simp [Bars, exclusion, switched, Exclusion.nestedFunctions, or_comm]

theorem excludes_exclusion (settings : Settings) :
    settings.exclusion.excludes = settings.omits := by
  funext name
  rw [Bool.eq_iff_iff, omits_iff, Exclusion.excludes_eq_true_iff]
  simp only [bars_iff]

end Settings

namespace Machine

open Listing

-- Nothing if the listing never ends, and else its bytes or why there are none to be had.
def listing (machine : Machine) : Option Text → Option (Except Text Bytes)
  | none => machine.input.gather
  | some path =>
      match machine.disk.openFile path with
      | .ok supply => supply.gather
      | .error error => some (.error error.message)

-- Reading the listing piece by piece comes to no end.
def Endless (machine : Machine) (settings : Settings) : Prop :=
  ∃ source, machine.source settings.input = .ok source ∧
    ∀ final, ¬ Supply.Feeds settings.omits (Reader.begin {}) (machine.supply source) final

def Reads (machine : Machine) (settings : Settings) (bytes : Bytes) : Prop :=
  machine.listing settings.input = some (.ok bytes) ∧ Sound settings.omits (lines bytes)

theorem collected_eq_none_iff {excludes : Text → Bool} {supply : Supply} :
    collected excludes supply = none ↔ supply.gather = none := by
  cases supply with
  | finite chunks => simp [collected, Supply.feed, Supply.gather]
  | zeros => simp [collected, Supply.feed, Supply.gather, Reader.begin]

theorem collected_finite (excludes : Text → Bool) (chunks : List Chunk) :
    collected excludes (.finite chunks) =
      match ({} : Collector).read excludes chunks with
      | (collector, .ok ()) => some (.ok collector)
      | (_, .error error) => some (.error (.readListing error)) := by
  rw [collected, Supply.feed, Option.map_some, completed, Collector.read]
  rcases Reader.finish excludes _ with ⟨collector, (error | _)⟩ <;> rfl

theorem collected_eq_ok_iff {excludes : Text → Bool} {supply : Supply} {collector : Collector} :
    collected excludes supply = some (.ok collector) ↔
      ∃ bytes, supply.gather = some (.ok bytes) ∧ Sound excludes (lines bytes) ∧
        collector = ({} : Collector).withLines excludes (lines bytes) := by
  cases supply with
  | zeros => simp [collected, Supply.feed, Supply.gather, Reader.begin]
  | finite chunks =>
      rw [collected_finite, Supply.gather]
      rcases Chunk.delivered_or_failure chunks with
        delivered | ⟨before, message, after, rfl, delivered⟩
      · rw [Chunk.gather_of_delivered delivered, Collector.read_eq_addAll excludes delivered]
        rcases sound_or_fatal excludes (lines (chunks.flatMap Chunk.payload)) with
          sound | ⟨before, line, after, split, sound, fatal⟩
        · rw [Collector.addAll_of_sound excludes sound]
          simp [sound, eq_comm]
        · rw [split, Collector.addAll_of_fatal excludes sound fatal]
          simp [not_sound_of_fatal excludes fatal, split]
      · rw [Chunk.gather_append_failure delivered, Collector.read_append_failure excludes delivered]
        rcases Collector.addAll excludes {} _ with ⟨collector, (error | _)⟩ <;>
          simp [Collector.breakOff]

theorem listing_eq_iff {machine : Machine} {input : Option Text}
    {result : Option (Except Text Bytes)} (unfailed : ∀ message, result ≠ some (.error message)) :
    machine.listing input = result ↔
      ∃ source, machine.source input = .ok source ∧ (machine.supply source).gather = result := by
  cases input with
  | none => simp [listing, Machine.source, supply]
  | some path =>
      rw [listing, Machine.source]
      cases machine.disk.openFile path with
      | ok opened => simp [supply]
      | error error => simp [(unfailed _).symm]

theorem listing_eq_some_iff {machine : Machine} {input : Option Text} {bytes : Bytes} :
    machine.listing input = some (.ok bytes) ↔
      ∃ source, machine.source input = .ok source ∧
        (machine.supply source).gather = some (.ok bytes) :=
  listing_eq_iff (by simp)

theorem listing_eq_none_iff {machine : Machine} {input : Option Text} :
    machine.listing input = none ↔
      ∃ source, machine.source input = .ok source ∧ (machine.supply source).gather = none :=
  listing_eq_iff (by simp)

theorem endless_iff {machine : Machine} {settings : Settings} :
    machine.Endless settings ↔ machine.listing settings.input = none := by
  have unending (supply : Supply) :
      (∀ final, ¬ Supply.Feeds settings.omits (Reader.begin {}) supply final) ↔
        supply.gather = none := by
    have uncollected : collected settings.omits supply = none ↔ supply.gather = none :=
      collected_eq_none_iff
    rw [collected, Option.map_eq_none_iff, Supply.feed_eq_none_iff] at uncollected
    exact uncollected
  simp only [Endless, unending, listing_eq_none_iff]

theorem receive_congr (machine : Machine) (place : Place) {pieces others : List Bytes}
    (joined : pieces.flatten = others.flatten) :
    machine.receive place pieces = machine.receive place others := by
  rw [receive, Sink.deliver_congr _ joined, receive]

def leave (machine : Machine) (output : Option Text) (text : Bytes) :
    Except Failure Unit × Machine :=
  match machine.destination output with
  | (.error failure, machine) => (.error failure, machine)
  | (.ok place, machine) =>
      ((machine.receive place [text]).1.mapError .writeTable, (machine.receive place [text]).2)

-- A generation that reports nothing.
def produce (machine : Machine) (settings : Settings) :
    Option (Except Failure Unit) × Machine :=
  match machine.source settings.input with
  | .error failure => (some (.error failure), machine)
  | .ok source =>
      match collected settings.omits (machine.supply source) with
      | none => (none, machine)
      | some (.error failure) => (some (.error failure), machine)
      | some (.ok collector) =>
          let left := machine.leave settings.output (Utf8.encode (Fragment.text collector.table))
          (some left.1, left.2)

theorem produce_of_reads {machine : Machine} {settings : Settings} {bytes : Bytes}
    (reads : machine.Reads settings bytes) :
    machine.produce settings =
      (some (machine.leave settings.output (tableBytes settings.omits bytes)).1,
        (machine.leave settings.output (tableBytes settings.omits bytes)).2) := by
  obtain ⟨read, sound⟩ := reads
  obtain ⟨source, opened, whole⟩ := listing_eq_some_iff.mp read
  have collection := collected_eq_ok_iff.mpr ⟨bytes, whole, sound, rfl⟩
  rw [produce, opened]
  dsimp only
  rw [collection, tableBytes, filterMap_kept? _ sound, ← text_pushAll]
  rfl

theorem produce_of_endless {machine : Machine} {settings : Settings}
    (endless : machine.listing settings.input = none) :
    machine.produce settings = (none, machine) := by
  obtain ⟨source, opened, unending⟩ := listing_eq_none_iff.mp endless
  have uncollected : collected settings.omits (machine.supply source) = none :=
    collected_eq_none_iff.mpr unending
  rw [produce, opened]
  dsimp only
  rw [uncollected]

theorem produce_of_not_reads {machine : Machine} {settings : Settings}
    (ended : machine.listing settings.input ≠ none)
    (unread : ∀ bytes, ¬ machine.Reads settings bytes) :
    ∃ failure, machine.produce settings = (some (.error failure), machine) := by
  rw [produce]
  cases opened : machine.source settings.input with
  | error failure => exact ⟨failure, rfl⟩
  | ok source =>
      dsimp only
      cases collection : collected settings.omits (machine.supply source) with
      | none =>
          have unending := collected_eq_none_iff.mp collection
          exact absurd (listing_eq_none_iff.mpr ⟨source, opened, unending⟩) ended
      | some result =>
          cases result with
          | error failure => exact ⟨failure, rfl⟩
          | ok collector =>
              obtain ⟨bytes, whole, sound, -⟩ := collected_eq_ok_iff.mp collection
              exact absurd ⟨listing_eq_some_iff.mpr ⟨source, opened, whole⟩, sound⟩ (unread bytes)

theorem produce_eq_none_iff {machine : Machine} {settings : Settings} :
    (machine.produce settings).1 = none ↔ machine.listing settings.input = none := by
  by_cases endless : machine.listing settings.input = none
  · simp [produce_of_endless endless, endless]
  · by_cases read : ∃ bytes, machine.Reads settings bytes
    · obtain ⟨bytes, reads⟩ := read
      simp [produce_of_reads reads, endless]
    · obtain ⟨failure, stopped⟩ := produce_of_not_reads endless (not_exists.mp read)
      simp [stopped, endless]

theorem exists_reads_of_ok {machine : Machine} {settings : Settings}
    (produced : (machine.produce settings).1 = some (.ok ())) :
    ∃ bytes, machine.Reads settings bytes := by
  by_contra unread
  have ended : machine.listing settings.input ≠ none := by
    intro endless
    rw [produce_of_endless endless] at produced
    cases produced
  obtain ⟨failure, stopped⟩ := produce_of_not_reads ended (not_exists.mp unread)
  rw [stopped] at produced
  cases produced

def unreported (machine : Machine) : Machine := { machine with reports := [] }

theorem unreported_reads {machine : Machine} {settings : Settings} {bytes : Bytes} :
    machine.unreported.Reads settings bytes ↔ machine.Reads settings bytes :=
  Iff.rfl

theorem unreported_logged (filter : Log.Filter) (event : Log.Event) (machine : Machine) :
    (machine.logged filter event).unreported = machine.unreported := by
  rw [logged]
  split <;> rfl

theorem unreported_announced (filter : Log.Filter) (exclusion : Exclusion) (machine : Machine) :
    (machine.announced filter exclusion).unreported = machine.unreported := by
  rw [announced]
  split
  · rfl
  · exact unreported_logged filter exclusion.event machine

theorem destination_unreported (machine : Machine) (output : Option Text) :
    machine.unreported.destination output =
      ((machine.destination output).1, (machine.destination output).2.unreported) := by
  cases output with
  | none => rfl
  | some path =>
      rw [destination, destination]
      have disk : machine.unreported.disk = machine.disk := rfl
      rw [disk]
      cases machine.disk.create path <;> rfl

theorem receive_unreported (machine : Machine) (place : Place) (pieces : List Bytes) :
    machine.unreported.receive place pieces =
      ((machine.receive place pieces).1, (machine.receive place pieces).2.unreported) := by
  cases place <;> rfl

theorem deliver_unreported (output : Option Text) (filter : Log.Filter) (collector : Collector)
    (machine : Machine) :
    Prod.map id unreported (machine.deliver output filter collector) =
      machine.unreported.leave output (Utf8.encode (Fragment.text collector.table)) := by
  have joined : ((Fragment.pieces collector.table).map Utf8.encode).flatten =
      [Utf8.encode (Fragment.text collector.table)].flatten := by
    rw [Fragment.text, Utf8.encode_flatten, List.flatten_singleton]
  rw [deliver, leave, ← unreported_logged filter collector.tally.event, destination_unreported]
  rcases (machine.logged filter collector.tally.event).destination output with
    ⟨(failure | place), opened⟩
  · rfl
  · dsimp only
    rw [← receive_congr _ place joined, ← unreported_logged filter collector.table.event opened,
      receive_unreported]
    rfl

theorem source_unreported (machine : Machine) (input : Option Text) :
    machine.unreported.source input = machine.source input := by
  cases input <;> rfl

theorem supply_unreported (machine : Machine) (source : Source) :
    machine.unreported.supply source = machine.supply source := by
  cases source <;> rfl

theorem generate_unreported (settings : Settings) (filter : Log.Filter) (machine : Machine) :
    Prod.map id unreported (machine.generate settings filter) =
      machine.unreported.produce settings := by
  rw [generate, produce, ← unreported_announced filter settings.exclusion,
    Settings.excludes_exclusion]
  simp only [source_unreported, supply_unreported]
  cases (machine.announced filter settings.exclusion).source settings.input with
  | error failure => rfl
  | ok source =>
      dsimp only
      cases collected settings.omits
          ((machine.announced filter settings.exclusion).supply source) with
      | none => rfl
      | some result =>
          cases result with
          | error failure => rfl
          | ok collector =>
              have delivered := deliver_unreported settings.output filter collector
                (machine.announced filter settings.exclusion)
              dsimp only
              rw [← delivered]
              rfl

theorem run_unreported {arguments : List Text} {settings : Settings}
    (parsed : CommandLine.parse arguments = .ok settings) (givenFilter : Option Text)
    (machine : Machine) :
    Prod.map id unreported (machine.run arguments givenFilter) =
      Prod.map (Option.map exitCode) id (machine.unreported.produce settings) := by
  let chosen := Log.Filter.choose givenFilter settings.logLevel
  have silent := generate_unreported settings chosen.1 (machine.reported chosen.2)
  have fresh : (machine.reported chosen.2).unreported = machine.unreported := rfl
  rw [fresh] at silent
  rw [run_of_settings parsed, ← silent]
  rfl

theorem run_of_parsed {arguments : List Text} {settings : Settings}
    (parsed : CommandLine.parse arguments = .ok settings) (givenFilter : Option Text)
    (machine : Machine) :
    let produced := machine.unreported.produce settings
    (machine.run arguments givenFilter).1 = produced.1.map exitCode ∧
      (machine.run arguments givenFilter).2.disk = produced.2.disk ∧
      (machine.run arguments givenFilter).2.output = produced.2.output := by
  intro produced
  have same := run_unreported parsed givenFilter machine
  have rest : (machine.run arguments givenFilter).2.unreported = produced.2 :=
    congrArg Prod.snd same
  have code : (machine.run arguments givenFilter).1 = produced.1.map exitCode :=
    congrArg Prod.fst same
  rw [← rest]
  exact ⟨code, rfl, rfl⟩

end Machine

end KernelSymbols
