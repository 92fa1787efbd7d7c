import KernelSymbols.Proofs.CommandLine.Acceptance
import KernelSymbols.Proofs.Coverage
import KernelSymbols.Proofs.Program.Reports

set_option autoImplicit false

namespace KernelSymbols

namespace Settings

-- Every prefix of the first begins with one of the second.
def Reaches (first second : Settings) : Prop :=
  ∀ start, first.Bars start → ∃ other, second.Bars other ∧ other <+: start

theorem Reaches.covered {first second : Settings} (reaches : first.Reaches second) :
    second.exclusion.Covers first.exclusion := by
  intro start member
  obtain ⟨other, given, shorter⟩ := reaches start (bars_iff.mpr member)
  exact ⟨other, bars_iff.mp given, shorter⟩

theorem omits_eq_of_reaches {first second : Settings} (reaches : first.Reaches second)
    (reached : second.Reaches first) : first.omits = second.omits := by
  rw [← excludes_exclusion, ← excludes_exclusion]
  exact funext (Exclusion.excludes_eq_iff.mpr ⟨reached.covered, reaches.covered⟩)

end Settings

namespace Occurrence

def start? : Occurrence → Option Text
  | .valued .excludePrefix value _ => some value
  | .valued _ _ _ => none
  | .skipNestedFunctions => some "__func__.".toList

def Bars (occurrences : List Occurrence) (start : Text) : Prop :=
  ∃ occurrence ∈ occurrences, occurrence.start? = some start

-- Options that say in other words which names to leave out.
inductive Reworded : List Occurrence → List Occurrence → Prop
  | switch {before after left right : List Occurrence} (same : left ++ right = before ++ after)
      (admitted : ValueOption.excludePrefix.Admits "__func__.".toList) :
      Reworded (before ++ .skipNestedFunctions :: after)
        (left ++ .valued .excludePrefix "__func__.".toList admitted :: right)
  | reordered {occurrences others : List Occurrence}
      (rest : others.filter (·.parameter ≠ .option .excludePrefix) =
        occurrences.filter (·.parameter ≠ .option .excludePrefix))
      (same : ∀ occurrence, occurrence ∈ others ↔ occurrence ∈ occurrences) :
      Reworded occurrences others
  | longer {left right : List Occurrence} {start more : Text}
      {admitted : ValueOption.excludePrefix.Admits start}
      (given : .valued .excludePrefix start admitted ∈ left ++ right)
      (extended : ValueOption.excludePrefix.Admits (start ++ more)) :
      Reworded (left ++ right) (left ++ .valued .excludePrefix (start ++ more) extended :: right)

theorem bars_iff {occurrences : List Occurrence} {start : Text} :
    Bars occurrences start ↔
      start ∈ values .excludePrefix occurrences ∨
        .skipNestedFunctions ∈ occurrences ∧ start = "__func__.".toList := by
  have each (occurrence : Occurrence) : occurrence.start? = some start ↔
      occurrence.value? .excludePrefix = some start ∨
        occurrence = .skipNestedFunctions ∧ start = "__func__.".toList := by
    cases occurrence with
    | skipNestedFunctions => simp [start?, value?, eq_comm]
    | valued option value admitted => cases option <;> simp [start?, value?]
  simp only [Bars, each, values, List.mem_filterMap, and_or_left, exists_or]
  simp

theorem bars_insert (left right : List Occurrence) (occurrence : Occurrence) (start : Text) :
    Bars (left ++ occurrence :: right) start ↔
      occurrence.start? = some start ∨ Bars (left ++ right) start := by
  simp only [Bars, List.mem_append, List.mem_cons, or_and_right, exists_or, exists_eq_left]
  exact or_left_comm

theorem count_insert {parameter : Parameter} {occurrence : Occurrence}
    (other : occurrence.parameter ≠ parameter) (left right : List Occurrence) :
    count parameter (left ++ occurrence :: right) = count parameter (left ++ right) := by
  simp [count, other]

theorem count_others {parameter : Parameter} (single : parameter ≠ .option .excludePrefix)
    (occurrences : List Occurrence) :
    count parameter (occurrences.filter (·.parameter ≠ .option .excludePrefix)) =
      count parameter occurrences := by
  rw [count, count, List.countP_filter]
  apply List.countP_congr
  intro occurrence _
  simp only [Bool.and_eq_true, decide_eq_true_eq, and_iff_left_iff_imp]
  rintro rfl
  exact single

theorem values_insert {option : ValueOption} {occurrence : Occurrence}
    (other : value? option occurrence = none) (left right : List Occurrence) :
    values option (left ++ occurrence :: right) = values option (left ++ right) := by
  simp [values, List.filterMap_append, other]

theorem values_others {option : ValueOption} (single : option ≠ .excludePrefix)
    (occurrences : List Occurrence) :
    values option (occurrences.filter (·.parameter ≠ .option .excludePrefix)) =
      values option occurrences := by
  rw [values, values, List.filterMap_filter]
  apply List.filterMap_congr
  intro occurrence _
  cases occurrence with
  | skipNestedFunctions => simp [value?]
  | valued other value admitted =>
      by_cases same : other = option
      · simp [value?, parameter, same, single]
      · simp [value?, same]

namespace Reworded

variable {occurrences others : List Occurrence} (reworded : Reworded occurrences others)
include reworded

theorem count_le {parameter : Parameter} (single : parameter ≠ .option .excludePrefix) :
    count parameter others ≤ count parameter occurrences := by
  cases reworded with
  | switch same admitted =>
      have other : (Occurrence.valued _ _ admitted).parameter ≠ parameter := single.symm
      rw [count_insert other, same]
      exact List.Sublist.countP_le (List.Sublist.append_left (List.sublist_cons_self _ _) _)
  | reordered rest same => rw [← count_others single, rest, count_others single]
  | longer given extended =>
      have other : (Occurrence.valued _ _ extended).parameter ≠ parameter := single.symm
      rw [count_insert other]

theorem values_eq {option : ValueOption} (single : option ≠ .excludePrefix) :
    values option others = values option occurrences := by
  cases reworded with
  | switch same admitted =>
      rw [values_insert (by simp [value?, single.symm]), same, values_insert rfl]
  | reordered rest same => rw [← values_others single, rest, values_others single]
  | longer given extended => rw [values_insert (by simp [value?, single.symm])]

theorem bars {start : Text} (barred : Bars occurrences start) : Bars others start := by
  cases reworded with
  | switch same admitted =>
      rw [bars_insert, ← same] at barred
      exact (bars_insert _ _ _ _).mpr barred
  | reordered rest same => simpa only [Bars, same] using barred
  | longer given extended => exact (bars_insert _ _ _ _).mpr (.inr barred)

theorem reached {start : Text} (barred : Bars others start) :
    ∃ other, Bars occurrences other ∧ other <+: start := by
  cases reworded with
  | switch same admitted =>
      rw [bars_insert, same] at barred
      exact ⟨start, (bars_insert _ _ _ _).mpr barred, List.prefix_rfl⟩
  | reordered rest same => exact ⟨start, by simpa only [Bars, same] using barred, List.prefix_rfl⟩
  | longer given extended =>
      rcases (bars_insert _ _ _ _).mp barred with same | barred
      · cases same
        exact ⟨_, ⟨_, given, rfl⟩, List.prefix_append _ _⟩
      · exact ⟨start, barred, List.prefix_rfl⟩

end Reworded

end Occurrence

namespace Machine

structure SameProduct (left right : Option UInt8 × Machine) : Prop where
  exit : left.1 = right.1
  output : left.2.output = right.2.output
  disk : left.2.disk = right.2.disk
  failure : ∀ code, left.1 = some code → code ≠ 0 →
    ∃ failure : Failure, failure.report <:+ left.2.reports ∧ failure.report <:+ right.2.reports

theorem produce_congr {first second : Settings} (input : first.input = second.input)
    (output : first.output = second.output) (omits : first.omits = second.omits)
    (machine : Machine) : machine.produce first = machine.produce second := by
  simp only [produce, input, output, omits]

theorem sameProduct_of_produce_eq {machine : Machine} {arguments others : List Text}
    {first second : Settings} (parsed : CommandLine.parse arguments = .ok first)
    (reparsed : CommandLine.parse others = .ok second)
    (same : machine.unreported.produce first = machine.unreported.produce second)
    (given other : Option Text) :
    SameProduct (machine.run arguments given) (machine.run others other) := by
  obtain ⟨code, disk, output⟩ := run_of_parsed parsed given machine
  obtain ⟨code', disk', output'⟩ := run_of_parsed reparsed other machine
  have reports := reports_run parsed given machine
  have reports' := reports_run reparsed other machine
  rw [← same] at code' disk' output' reports'
  refine ⟨code.trans code'.symm, output.trans output'.symm, disk.trans disk'.symm, ?_⟩
  intro exit ended failed
  rcases result : (machine.unreported.produce first).1 with _ | failure | _
  · rw [ended, result] at code
    cases code
  · rw [result] at reports reports'
    exact ⟨failure, reports ▸ List.suffix_append _ _, reports' ▸ List.suffix_append _ _⟩
  · rw [ended, result] at code
    exact absurd (Option.some.inj code) failed

end Machine

namespace CommandLine

open Occurrence

theorem Gives.bars_iff {occurrences : List Occurrence} {settings : Settings}
    (gives : Gives occurrences settings) {start : Text} :
    settings.Bars start ↔ Bars occurrences start := by
  rw [Settings.Bars, gives.excludedPrefixes, gives.skipNestedFunctions, Occurrence.bars_iff]

theorem parse_of_reworded {occurrences others : List Occurrence}
    (reworded : Reworded occurrences others) {parts respelled : List (List Text)}
    (spelled : List.Forall₂ Spells occurrences parts)
    (again : List.Forall₂ Spells others respelled) {first : Settings}
    (parsed : parse parts.flatten = .ok first) :
    ∃ second, parse respelled.flatten = .ok second ∧ first.input = second.input ∧
      first.output = second.output ∧ first.Reaches second ∧ second.Reaches first := by
  rcases parse_of_spelled spelled with ⟨single, _, accepted, gives⟩ | ⟨-, _, -, stopped⟩
  · cases parsed.symm.trans accepted
    have once : AtMostOnce others := fun parameter many =>
      (reworded.count_le many).trans (single parameter many)
    rcases parse_of_spelled again with ⟨-, second, reparsed, regives⟩ | ⟨double, -⟩
    · have input := (reworded.values_eq (by decide : ValueOption.input ≠ _)).symm
      have output := (reworded.values_eq (by decide : ValueOption.output ≠ _)).symm
      rw [← gives.input, ← regives.input] at input
      rw [← gives.output, ← regives.output] at output
      refine ⟨second, reparsed, eq_of_toList_eq input, eq_of_toList_eq output, ?_, ?_⟩
      · intro start barred
        exact ⟨start, regives.bars_iff.mpr (reworded.bars (gives.bars_iff.mp barred)),
          List.prefix_rfl⟩
      · intro start barred
        obtain ⟨other, given, shorter⟩ := reworded.reached (regives.bars_iff.mp barred)
        exact ⟨other, gives.bars_iff.mpr given, shorter⟩
    · exact absurd once double
  · cases parsed.symm.trans stopped

end CommandLine

namespace Machine

open Occurrence

theorem run_of_equal_exclusions (machine : Machine) (given other : Option Text) :
    (∀ (arguments others : List Text) (first second : Settings),
      CommandLine.parse arguments = .ok first → CommandLine.parse others = .ok second →
        first.input = second.input → first.output = second.output →
          first.Reaches second → second.Reaches first →
            SameProduct (machine.run arguments given) (machine.run others other)) ∧
      ∀ (occurrences others : List Occurrence) (parts respelled : List (List Text)),
        Reworded occurrences others → List.Forall₂ Spells occurrences parts →
          List.Forall₂ Spells others respelled →
            (∃ first, CommandLine.parse parts.flatten = .ok first) →
              (∃ second, CommandLine.parse respelled.flatten = .ok second) ∧
                SameProduct (machine.run parts.flatten given)
                  (machine.run respelled.flatten other) := by
  have agree (arguments others : List Text) (first second : Settings)
      (parsed : CommandLine.parse arguments = .ok first)
      (reparsed : CommandLine.parse others = .ok second) (input : first.input = second.input)
      (output : first.output = second.output) (reaches : first.Reaches second)
      (reached : second.Reaches first) :
      SameProduct (machine.run arguments given) (machine.run others other) := by
    have omits := Settings.omits_eq_of_reaches reaches reached
    have same := produce_congr input output omits machine.unreported
    exact sameProduct_of_produce_eq parsed reparsed same given other
  refine ⟨agree, ?_⟩
  intro occurrences others parts respelled reworded spelled again accepted
  obtain ⟨first, parsed⟩ := accepted
  obtain ⟨second, reparsed, input, output, reaches, reached⟩ :=
    CommandLine.parse_of_reworded reworded spelled again parsed
  exact ⟨⟨second, reparsed⟩, agree _ _ _ _ parsed reparsed input output reaches reached⟩

-- One of the names left out stands in a line that would be fatal.
theorem run_of_equal_exclusions_in_other_words :
    let content := Utf8.encode "1 2 T a\nzz 2 T __func__.b\n3 4 T .Lx".toList
    let machine : Machine := { disk := ⟨[], []⟩, input := .finite [.data content] }
    let prefixed := ["--exclude-prefix=.Lx".toList, "--exclude-prefix".toList, "__func__.".toList,
      "--exclude-prefix=.L".toList, "--exclude-prefix=.L".toList]
    let parts := [["--skip-nested-functions".toList], ["--exclude-prefix=.L".toList]]
    let respelled := [["--exclude-prefix".toList, ".L".toList],
      ["--exclude-prefix=__func__.".toList]]
    (machine.run parts.flatten none).1 = some 0 ∧
      SameProduct (machine.run parts.flatten none) (machine.run prefixed none) ∧
      SameProduct (machine.run parts.flatten none) (machine.run respelled.flatten none) := by
  intro content machine prefixed parts respelled
  let first : Settings := { excludedPrefixes := [".L".toList], skipNestedFunctions := true }
  let second : Settings :=
    { excludedPrefixes := [".Lx".toList, "__func__.".toList, ".L".toList, ".L".toList] }
  have parsed : CommandLine.parse parts.flatten = .ok first := by decide
  have reparsed : CommandLine.parse prefixed = .ok second := by decide
  have reaches : first.Reaches second := by
    intro start barred
    refine ⟨start, ?_, List.prefix_rfl⟩
    simp only [Settings.Bars, first, second] at barred ⊢
    grind
  have reached : second.Reaches first := by
    intro start barred
    have shorter : ".L".toList <+: ".Lx".toList := by decide
    simp only [Settings.Bars, first, second] at barred ⊢
    grind
  let label : Occurrence := .valued .excludePrefix ".L".toList (by simp [ValueOption.Admits])
  have admitted : ValueOption.excludePrefix.Admits "__func__.".toList := by
    simp [ValueOption.Admits]
  have reworded : Reworded ([] ++ .skipNestedFunctions :: [label])
      ([label] ++ .valued .excludePrefix "__func__.".toList admitted :: []) :=
    .switch (List.append_nil [label]) admitted
  have spelled : List.Forall₂ Spells [.skipNestedFunctions, label] parts :=
    .cons .switch (.cons (.long _) .nil)
  have again : List.Forall₂ Spells
      [label, .valued .excludePrefix "__func__.".toList admitted] respelled :=
    .cons (.longApart _ (.inr (by decide))) (.cons (.long _) .nil)
  have succeeded : (machine.run parts.flatten none).1 = some 0 := by decide +kernel
  obtain ⟨agree, agree'⟩ := run_of_equal_exclusions machine none none
  exact ⟨succeeded, agree _ _ first second parsed reparsed rfl rfl reaches reached,
    (agree' _ _ parts respelled reworded spelled again ⟨first, parsed⟩).2⟩

end Machine

end KernelSymbols
