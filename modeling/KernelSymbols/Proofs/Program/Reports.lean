import KernelSymbols.Proofs.Logging
import KernelSymbols.Proofs.Program.Product

set_option autoImplicit false

namespace KernelSymbols

namespace Machine

def announcements (exclusion : Exclusion) : List Log.Event :=
  if exclusion.isEmpty then [] else [exclusion.event]

def deliveryEvents (machine : Machine) (output : Option Text) (collector : Collector) :
    List Log.Event :=
  collector.tally.event ::
    match (machine.destination output).1 with
    | .error _ => []
    | .ok _ => [collector.table.event]

-- All that a run logs if everything is let through, as far as the run comes.
def events (machine : Machine) (settings : Settings) : List Log.Event :=
  announcements settings.exclusion ++
    match machine.source settings.input with
    | .error _ => []
    | .ok source =>
        match collected settings.omits (machine.supply source) with
        | some (.ok collector) => machine.deliveryEvents settings.output collector
        | _ => []

theorem reports_logged (filter : Log.Filter) (event : Log.Event) (machine : Machine) :
    (machine.logged filter event).reports = machine.reports ++ filter.shown [event] := by
  cases allowed : filter.allows event <;> simp [logged, allowed, addReport, Log.Filter.shown]

theorem reports_announced (filter : Log.Filter) (exclusion : Exclusion) (machine : Machine) :
    (machine.announced filter exclusion).reports =
      machine.reports ++ filter.shown (announcements exclusion) := by
  cases empty : exclusion.isEmpty
  · simp [announced, announcements, empty, reports_logged]
  · simp [announced, announcements, empty, Log.Filter.shown]

theorem reports_destination (machine : Machine) (output : Option Text) :
    (machine.destination output).2.reports = machine.reports := by
  cases output with
  | none => rfl
  | some path =>
      rw [destination]
      cases machine.disk.create path <;> rfl

theorem reports_hold (machine : Machine) (place : Place) (sink : Sink) :
    (machine.hold place sink).reports = machine.reports := by
  cases place <;> rfl

theorem reports_store (machine : Machine) (place : Place) (table : SymbolTable) :
    (machine.store place table).2.reports = machine.reports :=
  reports_hold machine place _

section Congr

variable {left right : Machine} (same : left.unreported = right.unreported)
include same

theorem source_congr (input : Option Text) : left.source input = right.source input := by
  rw [← source_unreported, same, source_unreported]

theorem supply_congr (source : Source) : left.supply source = right.supply source := by
  rw [← supply_unreported, same, supply_unreported]

theorem fst_destination_congr (output : Option Text) :
    (left.destination output).1 = (right.destination output).1 := by
  have both := destination_unreported left output
  rw [same, destination_unreported] at both
  exact (congrArg Prod.fst both).symm

theorem deliveryEvents_congr (output : Option Text) (collector : Collector) :
    left.deliveryEvents output collector = right.deliveryEvents output collector := by
  rw [deliveryEvents, deliveryEvents, fst_destination_congr same]

theorem events_congr (settings : Settings) : left.events settings = right.events settings := by
  simp only [events, source_congr same, supply_congr same, deliveryEvents_congr same]

end Congr

theorem reports_deliver (machine : Machine) (output : Option Text) (filter : Log.Filter)
    (collector : Collector) :
    (machine.deliver output filter collector).2.reports =
      machine.reports ++ filter.shown (machine.deliveryEvents output collector) := by
  have before := reports_logged filter collector.tally.event machine
  have opened := reports_destination (machine.logged filter collector.tally.event) output
  have same := fst_destination_congr (unreported_logged filter collector.tally.event machine) output
  rw [deliver, deliveryEvents, ← same]
  generalize (machine.logged filter collector.tally.event).destination output = result
    at opened ⊢
  rcases result with ⟨(failure | place), there⟩
  · exact opened.trans before
  · simp only [reports_store, reports_logged]
    rw [opened, before, List.append_assoc, ← Log.Filter.shown_append]
    rfl

theorem reports_generate (settings : Settings) (filter : Log.Filter) (machine : Machine) :
    (machine.generate settings filter).2.reports =
      machine.reports ++ filter.shown (machine.events settings) := by
  have before := reports_announced filter settings.exclusion machine
  have same := unreported_announced filter settings.exclusion machine
  rw [generate, events, source_congr same, Settings.excludes_exclusion]
  cases machine.source settings.input with
  | error failure => simpa using before
  | ok source =>
      simp only [supply_congr same]
      rcases collected settings.omits (machine.supply source) with _ | failure | collector
      · simpa using before
      · simpa using before
      · have delivered := reports_deliver (machine.announced filter settings.exclusion)
          settings.output filter collector
        rw [before, deliveryEvents_congr same, List.append_assoc,
          ← Log.Filter.shown_append] at delivered
        exact delivered

theorem reports_run {arguments : List Text} {settings : Settings}
    (parsed : CommandLine.parse arguments = .ok settings) (givenFilter : Option Text)
    (machine : Machine) :
    let setting := Log.Filter.inForce givenFilter settings.logLevel
    (machine.run arguments givenFilter).2.reports =
      machine.reports ++ Log.Filter.complaints setting ++
        (Log.Filter.ofText setting).shown (machine.events settings) ++
        closing (machine.unreported.produce settings).1 := by
  intro setting
  let complained := machine.reported (Log.Filter.complaints setting)
  have shown := reports_generate settings (Log.Filter.ofText setting) complained
  have silent := congrArg Prod.fst
    (generate_unreported settings (Log.Filter.ofText setting) complained)
  have same : complained.unreported = machine.unreported := rfl
  rw [events_congr same] at shown
  rw [run_of_settings parsed, Log.Filter.choose_eq, ← same, ← silent]
  exact congrArg (· ++ _) shown

theorem closing_cases (result : Option (Except Failure Unit)) :
    (result.map exitCode = none ∨ result.map exitCode = some 0) ∧ closing result = [] ∨
      result.map exitCode = some 1 ∧ ∃ failure : Failure, closing result = failure.report := by
  rcases result with _ | failure | _
  · exact .inl ⟨.inl rfl, rfl⟩
  · exact .inr ⟨rfl, failure, rfl⟩
  · exact .inl ⟨.inr rfl, rfl⟩

theorem run_differs_in_log_lines (machine : Machine) {arguments others : List Text}
    {settings : Settings} {level : Option Text}
    (parsed : CommandLine.parse arguments = .ok settings)
    (reparsed : CommandLine.parse others = .ok { settings with givenLogLevel := level })
    (given other : Option Text) :
    let first := machine.run arguments given
    let second := machine.run others other
    let setting := Log.Filter.inForce given settings.logLevel
    let resetting := Log.Filter.inForce other (level.getD "warn".toList)
    let shown (filter : Text) := (Log.Filter.ofText filter).shown (machine.events settings)
    first.1 = second.1 ∧ first.2.output = second.2.output ∧ first.2.disk = second.2.disk ∧
      (∃ closing : List Text,
        ((first.1 = none ∨ first.1 = some 0) ∧ closing = [] ∨
          first.1 = some 1 ∧ ∃ failure : Failure, closing = failure.report) ∧
        first.2.reports =
          machine.reports ++ Log.Filter.complaints setting ++ shown setting ++ closing ∧
        second.2.reports =
          machine.reports ++ Log.Filter.complaints resetting ++ shown resetting ++ closing) ∧
      ∀ given level, Log.Filter.IsList (Option.getD given level) →
        Log.Filter.inForce given level = given.getD level ∧
          Log.Filter.complaints (given.getD level) = [] := by
  intro first second setting resetting shown
  obtain ⟨code, disk, output⟩ := run_of_parsed parsed given machine
  obtain ⟨code', disk', output'⟩ := run_of_parsed reparsed other machine
  refine ⟨code.trans code'.symm, output.trans output'.symm, disk.trans disk'.symm,
    ⟨closing (machine.unreported.produce settings).1, ?_, reports_run parsed given machine,
      reports_run reparsed other machine⟩, ?_⟩
  · rw [show first.1 = _ from code]
    exact closing_cases _
  · intro given level list
    exact ⟨Log.Filter.inForce_of_isList list, Log.Filter.complaints_of_isList list⟩

-- Here the output cannot be created. One setting shows the two lines logged before. The other
-- cannot be read, so that the level of the command line is in force and shows none.
theorem run_loud_and_silent :
    let machine : Machine :=
      { disk := ⟨[], []⟩, input := .finite [.data (Utf8.encode "1 2 T a\nno symbol".toList)] }
    let arguments := ["--exclude-prefix=x".toList, "-o".toList, "d/f".toList]
    let others := ["-od/f".toList, "--log-level=off".toList, "--exclude-prefix=x".toList]
    let settings : Settings :=
      { output := some "d/f".toList, excludedPrefixes := ["x".toList] }
    let loud := some "info,gen_symtab=debug".toList
    let unread := some "symtab=loud".toList
    CommandLine.parse arguments = .ok settings ∧
      CommandLine.parse others = .ok { settings with givenLogLevel := some "off".toList } ∧
      (machine.run arguments loud).1 = (machine.run others unread).1 ∧
      (machine.run arguments loud).2.output = (machine.run others unread).2.output ∧
      (machine.run arguments loud).2.disk = (machine.run others unread).2.disk ∧
      ∃ log : List Text, log.length = 2 ∧
        (machine.run arguments loud).2.reports = log ++ (machine.run others unread).2.reports := by
  intro machine arguments others settings loud unread
  have parsed : CommandLine.parse arguments = .ok settings := by decide
  have reparsed : CommandLine.parse others =
      .ok { settings with givenLogLevel := some "off".toList } := by
    decide
  have both : ((Log.Filter.ofText "info,gen_symtab=debug".toList).shown
      (machine.events settings)).length = 2 := by
    decide +kernel
  have nothing : (Log.Filter.ofText "off".toList).shown (machine.events settings) = [] := by
    decide +kernel
  have heard : Log.Filter.inForce loud settings.logLevel = "info,gen_symtab=debug".toList := by
    decide +kernel
  have unheard : Log.Filter.inForce unread ((some "off".toList).getD "warn".toList) =
      "off".toList := by
    decide +kernel
  have quiet : Log.Filter.complaints "info,gen_symtab=debug".toList = [] := by decide +kernel
  have silent : Log.Filter.complaints "off".toList = [] := by decide +kernel
  have fresh : machine.reports = [] := rfl
  obtain ⟨code, output, disk, ⟨closing, -, first, second⟩, -⟩ :=
    run_differs_in_log_lines machine parsed reparsed loud unread
  refine ⟨parsed, reparsed, code, output, disk, _, both, ?_⟩
  rw [first, second, heard, unheard]
  dsimp only
  rw [nothing, quiet, silent, fresh]
  simp only [List.nil_append, List.append_nil]

end Machine

end KernelSymbols
