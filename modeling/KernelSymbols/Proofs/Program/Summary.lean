import KernelSymbols.Proofs.Growth
import KernelSymbols.Proofs.Layout
import KernelSymbols.Proofs.Program.Delivery
import KernelSymbols.Proofs.Program.Reports
import KernelSymbols.Proofs.Text.Quotation

set_option autoImplicit false

namespace KernelSymbols

namespace Listing

-- What follows the last line feed is a line of its own if there is any of it.
def openEnd (bytes : Bytes) : Nat :=
  if bytes = [] ∨ bytes.getLast? = some lineFeed then 0 else 1

theorem openEnd_cons (byte : UInt8) {rest : Bytes} (further : rest ≠ []) :
    openEnd (byte :: rest) = openEnd rest := by
  simp [openEnd, further, List.getLast?_cons_of_ne_nil further]

theorem length_lines (bytes : Bytes) :
    (lines bytes).length = bytes.count lineFeed + openEnd bytes := by
  induction bytes with
  | nil => rfl
  | cons byte rest ih =>
      by_cases last : rest = []
      · by_cases ends : byte = lineFeed <;> simp [lines, openEnd, last, ends]
      · obtain ⟨first, others, split⟩ := List.exists_cons_of_ne_nil (lines_ne_nil last)
        rw [openEnd_cons byte last]
        by_cases ends : byte = lineFeed
        · simp [lines, ends, ih, Nat.add_right_comm]
        · rw [split] at ih
          simp [lines, ends, split, ← ih]

end Listing

theorem hasNoControl_separated (texts : List Text) :
    Text.hasNoControl ((texts.map Text.quote).intersperse ", ".toList).flatten = true := by
  induction texts with
  | nil => rfl
  | cons first rest ih =>
      cases rest with
      | nil => simpa using Text.hasNoControl_quote first
      | cons second others =>
          have separator : Text.hasNoControl ", ".toList = true := by decide
          rw [List.map_cons, List.map_cons, List.intersperse_cons_cons, List.flatten_cons,
            List.flatten_cons, Text.hasNoControl_append, Text.hasNoControl_append,
            Text.hasNoControl_quote, separator, Bool.true_and, Bool.true_and]
          exact ih

theorem hasNoControl_quotedList (texts : List Text) :
    Text.hasNoControl (quotedList texts) = true := by
  have split : quotedList texts = "[".toList ++
      ((texts.map Text.quote).intersperse ", ".toList).flatten ++ "]".toList := rfl
  rw [split, Text.hasNoControl_append, Text.hasNoControl_append, hasNoControl_separated]
  rfl

namespace Machine

open Listing

def excludingLine (exclusion : Exclusion) : Text :=
  "DEBUG gen_symtab: excluding prefixes: ".toList ++ quotedList exclusion.prefixes

def summaryLine (tally : Tally) : Text :=
  "INFO symtab::emitter: symbol listing read lines=".toList ++ Text.decimal tally.lines ++
    " retained=".toList ++ Text.decimal tally.retained ++
    " malformed=".toList ++ Text.decimal tally.malformed ++
    " excluded=".toList ++ Text.decimal tally.excluded

def writingLine (size : Nat) : Text :=
  "DEBUG symtab::emitter: writing ".toList ++ Text.decimal size ++ " symbols".toList

theorem line_event_exclusion (exclusion : Exclusion) :
    exclusion.event.line = excludingLine exclusion := by
  apply Log.Event.line_of_message "excluding prefixes: ".toList
  · rfl
  · simp only [Exclusion.event]
    decide

theorem line_event_tally (tally : Tally) : tally.event.line = summaryLine tally := by
  unfold summaryLine
  simp only [List.append_assoc]
  apply Log.Event.line_of_message "symbol listing read lines=".toList
  · simp only [Tally.event, List.append_assoc]
  · simp only [Tally.event]
    decide

theorem line_event_table (table : SymbolTable) : table.event.line = writingLine table.size := by
  unfold writingLine
  rw [List.append_assoc]
  apply Log.Event.line_of_message "writing ".toList
  · rw [SymbolTable.event, List.append_assoc]
  · simp only [SymbolTable.event]
    decide

theorem lines_excludingLine (exclusion : Exclusion) :
    Text.lines exclusion.event.line = [excludingLine exclusion] := by
  have opening : Text.hasNoControl "DEBUG gen_symtab: excluding prefixes: ".toList = true := by
    decide
  rw [line_event_exclusion]
  apply Text.lines_of_hasNoControl
  unfold excludingLine
  rw [Text.hasNoControl_append, opening, hasNoControl_quotedList]
  rfl

theorem lines_summaryLine (tally : Tally) : Text.lines tally.event.line = [summaryLine tally] := by
  rw [line_event_tally]
  apply Text.lines_of_hasNoControl
  unfold summaryLine
  simp only [Text.hasNoControl_append, Text.hasNoControl_decimal, Bool.and_true, Bool.and_eq_true]
  refine ⟨⟨⟨?_, ?_⟩, ?_⟩, ?_⟩ <;> decide

theorem lines_writingLine (table : SymbolTable) :
    Text.lines table.event.line = [writingLine table.size] := by
  rw [line_event_table]
  apply Text.lines_of_hasNoControl
  unfold writingLine
  simp only [Text.hasNoControl_append, Text.hasNoControl_decimal, Bool.and_true, Bool.and_eq_true]
  exact ⟨by decide, by decide⟩

theorem destination_of_takes {machine : Machine} {text : Bytes} {output : Option Text}
    (takes : machine.Takes text output) : ∃ place, (machine.destination output).1 = .ok place := by
  cases output with
  | none => exact ⟨.standardOutput, rfl⟩
  | some path =>
      obtain ⟨created, location, made, -⟩ := takes
      exact ⟨.location location, by rw [destination, made]⟩

theorem events_of_reads {machine : Machine} {settings : Settings} {bytes text : Bytes}
    (reads : machine.Reads settings bytes) (takes : machine.Takes text settings.output) :
    machine.events settings =
      announcements settings.exclusion ++
        [(counts settings.omits (lines bytes)).event,
          (({} : SymbolTable).pushAll (symbols settings.omits (lines bytes))).event] := by
  obtain ⟨read, sound⟩ := reads
  obtain ⟨source, opened, whole⟩ := listing_eq_some_iff.mp read
  have collection := collected_eq_ok_iff.mpr ⟨bytes, whole, sound, rfl⟩
  obtain ⟨place, ready⟩ := destination_of_takes takes
  rw [events, opened]
  dsimp only
  rw [collection]
  dsimp only
  rw [deliveryEvents, ready, Collector.withLines, Tally.zero_add]

theorem size_pushAll_of_sound {excludes : Text → Bool} {lines : List Bytes}
    (sound : Sound excludes lines) :
    (({} : SymbolTable).pushAll (symbols excludes lines)).size =
      (counts excludes lines).retained := by
  have entries := SymbolTable.toList_pushAll {} (symbols excludes lines)
  rw [← SymbolTable.length_toList, entries, counts, filterMap_kept? excludes sound]
  simp

theorem reportLines_of_success {machine : Machine} {arguments : List Text} {settings : Settings}
    (parsed : CommandLine.parse arguments = .ok settings) {givenFilter : Option Text}
    (debugging : Log.Level.ofText? (givenFilter.getD settings.logLevel) = some .debug)
    {bytes : Bytes} (reads : machine.Reads settings bytes)
    (takes : machine.Takes (tableBytes settings.omits bytes) settings.output) :
    let tally := counts settings.omits (lines bytes)
    (machine.run arguments givenFilter).2.reportLines =
      machine.reportLines ++
        ((if settings.exclusion.prefixes = [] then [] else [excludingLine settings.exclusion]) ++
          [summaryLine tally, writingLine tally.retained]) := by
  intro tally
  have list := Log.Filter.isList_of_level debugging
  have happened := events_of_reads reads takes
  have loud : ∀ event ∈ machine.events settings, event.level.rank ≤ Log.Level.debug.rank := by
    rw [happened, announcements]
    split <;> simp [Exclusion.event, Tally.event, SymbolTable.event, Log.Level.rank]
  have produced : (machine.unreported.produce settings).1 = some (.ok ()) := by
    rw [produce_of_reads (unreported_reads.mpr reads)]
    exact congrArg some
      ((leave_eq_ok_iff (tableBytes_ne_nil _ bytes)).mpr (unreported_takes.mpr takes))
  have before : (announcements settings.exclusion).flatMap (Text.lines ·.line) =
      if settings.exclusion.prefixes = [] then [] else [excludingLine settings.exclusion] := by
    by_cases none : settings.exclusion.prefixes = [] <;>
      simp [announcements, Exclusion.isEmpty, none, lines_excludingLine]
  rw [reportLines, reports_run parsed, Log.Filter.inForce_of_isList list,
    Log.Filter.complaints_of_isList list, Log.Filter.shown_of_level debugging loud, produced,
    happened]
  simp only [closing, List.append_nil, List.flatMap_append, List.map_append, List.flatMap_map,
    before, List.flatMap_cons, List.flatMap_nil, lines_summaryLine, lines_writingLine,
    size_pushAll_of_sound reads.2]
  rfl

theorem run_reports_what_it_wrote (machine : Machine) {arguments : List Text} {settings : Settings}
    (parsed : CommandLine.parse arguments = .ok settings) {givenFilter : Option Text}
    (debugging : Log.Level.ofText? (givenFilter.getD settings.logLevel) = some .debug)
    (succeeded : (machine.run arguments givenFilter).1 = some 0) :
    let ended := (machine.run arguments givenFilter).2
    ∃ (bytes : Bytes) (text : Text) (tally : Tally),
      machine.listing settings.input = some (.ok bytes) ∧
      machine.Delivered ended (Utf8.encode text) settings.output ∧
      ended.reportLines =
        machine.reportLines ++
          ((if settings.exclusion.prefixes = [] then [] else [excludingLine settings.exclusion]) ++
            [summaryLine tally, writingLine tally.retained]) ∧
      Fragment.Declares (Text.pieces '\n' text) tally.retained ∧
      tally.lines = bytes.count lineFeed + openEnd bytes ∧
      tally.lines = tally.retained + tally.malformed + tally.excluded := by
  intro ended
  let excludes := settings.omits
  obtain ⟨bytes, reads, takes⟩ := (exit_run_eq_zero_iff machine parsed givenFilter).mp succeeded
  obtain ⟨other, again, delivered⟩ := delivered_run machine parsed givenFilter succeeded
  have same : bytes = other := Except.ok.inj (Option.some.inj (reads.1.symm.trans again.1))
  subst same
  let table := ({} : SymbolTable).pushAll (symbols excludes (lines bytes))
  have written : tableBytes excludes bytes = Utf8.encode (Fragment.text table) := by
    rw [tableBytes, filterMap_kept? _ reads.2, ← text_pushAll]
  have spaceless : ∀ symbol ∈ symbols excludes (lines bytes), symbol.Spaceless := by
    intro symbol member
    obtain ⟨line, -, kept⟩ := List.mem_filterMap.mp member
    exact spaceless_of_symbol? kept
  have declares : Fragment.Declares (Text.pieces '\n' (Fragment.text table)) table.size :=
    Fragment.declares_text (SymbolTable.toList_pushAll {} _) spaceless
  rw [size_pushAll_of_sound reads.2] at declares
  refine ⟨bytes, Fragment.text table, counts excludes (lines bytes), reads.1, ?_,
    reportLines_of_success parsed debugging reads takes, declares, length_lines bytes,
    Collector.balance_counts excludes reads.2⟩
  rw [← written]
  exact delivered

-- Here the last line is not ended, and one prefix spells the start of a line of its own.
theorem run_reports_odd_prefix :
    let content := Utf8.encode "1 2 T a\n\n3 4 t x\n5 6 T b".toList
    let machine : Machine := { disk := ⟨[], []⟩, input := .finite [.data content] }
    let arguments := ["--exclude-prefix".toList, "x".toList, "--exclude-prefix=\nDEBUG".toList]
    let settings : Settings := { excludedPrefixes := ["x".toList, "\nDEBUG".toList] }
    let given := some "Debug".toList
    let ended := machine.run arguments given
    CommandLine.parse arguments = .ok settings ∧
      Log.Level.ofText? (given.getD settings.logLevel) = some .debug ∧ ended.1 = some 0 ∧
      ∃ tally : Tally, tally.lines = 4 ∧
        ended.2.reportLines =
          ["DEBUG gen_symtab: excluding prefixes: [\"x\", \"\\nDEBUG\"]".toList,
            summaryLine tally, writingLine tally.retained] := by
  intro content machine arguments settings given ended
  have parsed : CommandLine.parse arguments = .ok settings := by decide
  have debugging : Log.Level.ofText? (given.getD settings.logLevel) = some .debug := by decide
  have succeeded : ended.1 = some 0 := by decide +kernel
  obtain ⟨bytes, text, tally, read, -, reported, -, counted, -⟩ :=
    run_reports_what_it_wrote machine parsed debugging succeeded
  have whole : bytes = content := by
    have joined : content ++ [] = content := List.append_nil content
    exact joined ▸ (Except.ok.inj (Option.some.inj read)).symm
  have four : content.count lineFeed + openEnd content = 4 := by decide +kernel
  have prefixes : excludingLine settings.exclusion =
      "DEBUG gen_symtab: excluding prefixes: [\"x\", \"\\nDEBUG\"]".toList := by
    decide +kernel
  have filtered : settings.exclusion.prefixes ≠ [] := by decide
  rw [if_neg filtered, prefixes] at reported
  refine ⟨parsed, debugging, succeeded, tally, ?_, reported⟩
  rw [counted, whole, four]

end Machine

end KernelSymbols
