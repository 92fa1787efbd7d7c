import KernelSymbols.Proofs.CommandLine.Spelling

set_option autoImplicit false

namespace KernelSymbols

namespace Occurrence

def value? (option : ValueOption) : Occurrence → Option Text
  | .valued other value _ => if other = option then some value else none
  | .skipNestedFunctions => none

def values (option : ValueOption) (occurrences : List Occurrence) : List Text :=
  occurrences.filterMap (value? option)

def count (parameter : Parameter) (occurrences : List Occurrence) : Nat :=
  occurrences.countP fun occurrence => occurrence.parameter = parameter

theorem values_eq_filter (option : ValueOption) (occurrences : List Occurrence) :
    values option occurrences =
      (occurrences.filter (·.parameter = .option option)).filterMap (value? option) := by
  rw [values, List.filterMap_filter]
  apply List.filterMap_congr
  intro occurrence _
  cases occurrence with
  | skipNestedFunctions => simp [value?]
  | valued given value admitted => simp [value?, parameter]

theorem switch_mem_iff (occurrences : List Occurrence) :
    .skipNestedFunctions ∈ occurrences ↔
      .skipNestedFunctions ∈
        occurrences.filter (·.parameter = .switch .skipNestedFunctions) := by
  simp [parameter]

def AtMostOnce (occurrences : List Occurrence) : Prop :=
  ∀ parameter, parameter ≠ .option .excludePrefix → count parameter occurrences ≤ 1

end Occurrence

namespace Settings

open Occurrence

def values (settings : Settings) : ValueOption → List Text
  | .input => settings.input.toList
  | .output => settings.output.toList
  | .excludePrefix => settings.excludedPrefixes
  | .logLevel => settings.givenLogLevel.toList

-- Settings after more options were entered, none of them for the second time.
structure Extends (before : Settings) (occurrences : List Occurrence) (after : Settings) :
    Prop where
  values (option : ValueOption) :
    after.values option = before.values option ++ Occurrence.values option occurrences
  switched : after.skipNestedFunctions = true ↔
    before.skipNestedFunctions = true ∨ .skipNestedFunctions ∈ occurrences

theorem Extends.refl (settings : Settings) : Extends settings [] settings where
  values option := by simp [Occurrence.values]
  switched := by simp

theorem Extends.trans {before middle after : Settings} {first second : List Occurrence}
    (left : Extends before first middle) (right : Extends middle second after) :
    Extends before (first ++ second) after where
  values option := by
    rw [right.values, left.values, List.append_assoc, Occurrence.values, Occurrence.values,
      Occurrence.values, List.filterMap_append]
  switched := by rw [right.switched, left.switched, List.mem_append, or_assoc]

theorem extends_add {settings : Settings} {occurrence : Occurrence}
    (free : settings.isTaken occurrence.parameter = false) :
    Extends settings [occurrence] (settings.add occurrence) where
  values option := by
    cases occurrence with
    | skipNestedFunctions => cases option <;> simp [add, values, Occurrence.values, value?]
    | valued given value admitted =>
        cases given <;> cases option <;>
          simp_all [add, set, values, Occurrence.values, value?, isTaken, parameter]
  switched := by
    cases occurrence with
    | skipNestedFunctions => simp [add]
    | valued given value admitted => cases given <;> simp [add, set]

theorem isTaken_add (settings : Settings) (occurrence : Occurrence) {parameter : Parameter}
    (single : parameter ≠ .option .excludePrefix) :
    (settings.add occurrence).isTaken parameter =
      (settings.isTaken parameter || decide (occurrence.parameter = parameter)) := by
  cases occurrence with
  | skipNestedFunctions =>
      rcases parameter with option | switch
      · cases option <;> simp [add, isTaken, Occurrence.parameter]
      · cases switch <;> simp [add, isTaken, Occurrence.parameter]
  | valued given value admitted =>
      rcases parameter with option | switch
      · cases given <;> cases option <;> simp_all [add, set, isTaken, Occurrence.parameter]
      · cases given <;> cases switch <;> simp [add, set, isTaken, Occurrence.parameter]

-- How often a parameter was given, be it before or among these.
def total (settings : Settings) (occurrences : List Occurrence) (parameter : Parameter) : Nat :=
  (settings.isTaken parameter).toNat + count parameter occurrences

theorem total_cons {settings : Settings} {occurrence : Occurrence}
    (free : settings.isTaken occurrence.parameter = false) (rest : List Occurrence)
    {parameter : Parameter} (single : parameter ≠ .option .excludePrefix) :
    total settings (occurrence :: rest) parameter =
      total (settings.add occurrence) rest parameter := by
  rw [total, total, isTaken_add settings occurrence single, count, List.countP_cons, ← count]
  by_cases same : occurrence.parameter = parameter
  · rw [← same, free]
    simp [Nat.add_comm]
  · simp [same]

theorem foldlM_give (settings : Settings) (occurrences : List Occurrence) :
    ((∀ parameter, parameter ≠ .option .excludePrefix →
          total settings occurrences parameter ≤ 1) ∧
        ∃ ended, occurrences.foldlM give settings = .ok ended ∧
          Extends settings occurrences ended) ∨
      ∃ parameter, parameter ≠ .option .excludePrefix ∧
        1 < total settings occurrences parameter ∧
          occurrences.foldlM give settings = .error (.usage (.repeated parameter)) := by
  induction occurrences generalizing settings with
  | nil =>
      refine .inl ⟨?_, settings, rfl, .refl settings⟩
      intro parameter single
      exact Bool.toNat_le _
  | cons occurrence rest ih =>
      cases taken : settings.isTaken occurrence.parameter with
      | true =>
          have single : occurrence.parameter ≠ .option .excludePrefix := by
            intro many
            rw [many] at taken
            cases taken
          refine .inr ⟨occurrence.parameter, single, ?_, ?_⟩
          · simp [total, count, taken]
          · rw [List.foldlM_cons, give, if_pos taken]
            rfl
      | false =>
          have entered : settings.give occurrence = .ok (settings.add occurrence) := by
            simp [give, taken]
          rw [List.foldlM_cons, entered]
          rcases ih (settings.add occurrence) with
            ⟨once, ended, folded, extended⟩ | ⟨parameter, single, twice, folded⟩
          · refine .inl ⟨?_, ended, folded, (extends_add taken).trans extended⟩
            intro parameter single
            rw [total_cons taken rest single]
            exact once parameter single
          · refine .inr ⟨parameter, single, ?_, folded⟩
            rw [total_cons taken rest single]
            exact twice

end Settings

namespace CommandLine

open Occurrence

theorem total_default (occurrences : List Occurrence) (parameter : Parameter) :
    ({} : Settings).total occurrences parameter = count parameter occurrences := by
  have untaken : ({} : Settings).isTaken parameter = false := by
    rcases parameter with option | switch
    · cases option <;> rfl
    · cases switch <;> rfl
  simp [Settings.total, untaken]

structure Gives (occurrences : List Occurrence) (settings : Settings) : Prop where
  input : settings.input.toList = values .input occurrences
  output : settings.output.toList = values .output occurrences
  excludedPrefixes : settings.excludedPrefixes = values .excludePrefix occurrences
  logLevel : settings.givenLogLevel.toList = values .logLevel occurrences
  skipNestedFunctions : settings.skipNestedFunctions = true ↔ .skipNestedFunctions ∈ occurrences

theorem gives_of_extends {occurrences : List Occurrence} {settings : Settings}
    (extended : Settings.Extends {} occurrences settings) : Gives occurrences settings where
  input := extended.values .input
  output := extended.values .output
  excludedPrefixes := extended.values .excludePrefix
  logLevel := extended.values .logLevel
  skipNestedFunctions := by simpa using extended.switched

theorem eq_of_toList_eq {first second : Option Text} (same : first.toList = second.toList) :
    first = second := by
  cases first <;> cases second <;> simp_all

theorem Gives.unique {occurrences : List Occurrence} {left right : Settings}
    (first : Gives occurrences left) (second : Gives occurrences right) : left = right := by
  have input := eq_of_toList_eq (first.input.trans second.input.symm)
  have output := eq_of_toList_eq (first.output.trans second.output.symm)
  have logLevel := eq_of_toList_eq (first.logLevel.trans second.logLevel.symm)
  have excludedPrefixes := first.excludedPrefixes.trans second.excludedPrefixes.symm
  have switched : left.skipNestedFunctions = right.skipNestedFunctions :=
    Bool.eq_iff_iff.mpr (first.skipNestedFunctions.trans second.skipNestedFunctions.symm)
  cases left; cases right
  simp_all

theorem parse_of_spelled {occurrences : List Occurrence} {parts : List (List Text)}
    (spelled : List.Forall₂ Spells occurrences parts) :
    (AtMostOnce occurrences ∧ ∃ settings, parse parts.flatten = .ok settings ∧
        Gives occurrences settings) ∨
      (¬ AtMostOnce occurrences ∧ ∃ parameter, 1 < count parameter occurrences ∧
        parse parts.flatten = .error (.usage (.repeated parameter))) := by
  rw [parse_flatten spelled]
  rcases Settings.foldlM_give {} occurrences with
    ⟨once, settings, folded, extended⟩ | ⟨parameter, single, twice, folded⟩
  · simp only [total_default] at once
    exact .inl ⟨once, settings, folded, gives_of_extends extended⟩
  · rw [total_default] at twice
    refine .inr ⟨?_, parameter, twice, folded⟩
    intro once
    exact absurd (once parameter single) (by omega)

theorem Gives.logLevel_eq {occurrences : List Occurrence} {settings : Settings}
    (gives : Gives occurrences settings) :
    settings.logLevel = (values .logLevel occurrences).head?.getD "warn".toList := by
  rw [← gives.logLevel, Settings.logLevel]
  cases settings.givenLogLevel <;> rfl

theorem Gives.prefixes_eq {occurrences : List Occurrence} {settings : Settings}
    (gives : Gives occurrences settings) :
    (.skipNestedFunctions ∈ occurrences →
        settings.exclusion.prefixes = "__func__.".toList :: values .excludePrefix occurrences) ∧
      (.skipNestedFunctions ∉ occurrences →
        settings.exclusion.prefixes = values .excludePrefix occurrences) := by
  rw [← gives.excludedPrefixes, ← gives.skipNestedFunctions, Settings.exclusion]
  constructor
  · intro switched
    rw [if_pos switched, Exclusion.prefixes_pushAll]
    rfl
  · intro unswitched
    rw [if_neg unswitched, Exclusion.prefixes_pushAll]
    rfl

section

variable {occurrences others : List Occurrence}
  (shuffled : ∀ parameter, others.filter (·.parameter = parameter) =
    occurrences.filter (·.parameter = parameter))
include shuffled

theorem count_of_shuffled (parameter : Parameter) :
    count parameter others = count parameter occurrences := by
  rw [count, count, List.countP_eq_length_filter, List.countP_eq_length_filter, shuffled]

theorem Gives.of_shuffled {settings : Settings} (gives : Gives others settings) :
    Gives occurrences settings := by
  have same (option : ValueOption) : values option others = values option occurrences := by
    rw [values_eq_filter, shuffled, ← values_eq_filter]
  have switched : .skipNestedFunctions ∈ others ↔ .skipNestedFunctions ∈ occurrences := by
    rw [switch_mem_iff, shuffled, ← switch_mem_iff]
  constructor
  · rw [gives.input, same]
  · rw [gives.output, same]
  · rw [gives.excludedPrefixes, same]
  · rw [gives.logLevel, same]
  · rw [gives.skipNestedFunctions, switched]

theorem parse_of_shuffled {parts respelled : List (List Text)}
    (spelled : List.Forall₂ Spells occurrences parts)
    (again : List.Forall₂ Spells others respelled) :
    (parse respelled.flatten).toOption = (parse parts.flatten).toOption := by
  have once : AtMostOnce others ↔ AtMostOnce occurrences := by
    simp only [AtMostOnce, count_of_shuffled shuffled]
  rcases parse_of_spelled spelled with ⟨single, settings, parsed, gives⟩ | ⟨double, _, -, stopped⟩
  · rcases parse_of_spelled again with ⟨-, others, reparsed, regives⟩ | ⟨double, -⟩
    · rw [parsed, reparsed, (regives.of_shuffled shuffled).unique gives]
    · exact absurd (once.mpr single) double
  · rcases parse_of_spelled again with ⟨single, -⟩ | ⟨-, _, -, restopped⟩
    · exact absurd (once.mp single) double
    · rw [stopped, restopped]
      rfl

end

theorem parse_spelled {occurrences : List Occurrence} {parts : List (List Text)}
    (spelled : List.Forall₂ Spells occurrences parts) :
    ((∃ settings, parse parts.flatten = .ok settings) ↔ AtMostOnce occurrences) ∧
      (¬ AtMostOnce occurrences → ∃ parameter, 1 < count parameter occurrences ∧
        parse parts.flatten = .error (.usage (.repeated parameter))) ∧
      (∀ settings, parse parts.flatten = .ok settings →
        Gives occurrences settings ∧
          settings.logLevel = (values .logLevel occurrences).head?.getD "warn".toList ∧
          (.skipNestedFunctions ∈ occurrences →
            settings.exclusion.prefixes =
              "__func__.".toList :: values .excludePrefix occurrences) ∧
          (.skipNestedFunctions ∉ occurrences →
            settings.exclusion.prefixes = values .excludePrefix occurrences)) ∧
      (∀ respelled, List.Forall₂ Spells occurrences respelled →
        parse respelled.flatten = parse parts.flatten) ∧
      ∀ others respelled, List.Forall₂ Spells others respelled →
        (∀ parameter, others.filter (·.parameter = parameter) =
          occurrences.filter (·.parameter = parameter)) →
        (parse respelled.flatten).toOption = (parse parts.flatten).toOption := by
  refine ⟨?_, ?_, ?_, ?_, fun others respelled again shuffled =>
    parse_of_shuffled shuffled spelled again⟩
  · rcases parse_of_spelled spelled with ⟨single, accepted⟩ | ⟨double, parameter, -, stopped⟩
    · exact iff_of_true (accepted.imp fun _ => And.left) single
    · simp [stopped, double]
  · intro double
    rcases parse_of_spelled spelled with ⟨single, -⟩ | ⟨-, stopped⟩
    · exact absurd single double
    · exact stopped
  · intro settings accepted
    rcases parse_of_spelled spelled with ⟨-, _, parsed, gives⟩ | ⟨-, _, -, stopped⟩
    · cases accepted.symm.trans parsed
      exact ⟨gives, gives.logLevel_eq, gives.prefixes_eq⟩
    · cases accepted.symm.trans stopped
  · intro respelled again
    rw [parse_flatten again, parse_flatten spelled]

-- Values that begin with an equals sign, are empty, or look like options themselves.
theorem parse_spelled_of_odd_values :
    let occurrences : List Occurrence :=
      [.valued .input "=a".toList (by simp [ValueOption.Admits]),
        .valued .excludePrefix [] (by simp [ValueOption.Admits]), .skipNestedFunctions,
        .valued .excludePrefix "--help".toList (by simp [ValueOption.Admits]),
        .valued .output "-".toList (by simp [ValueOption.Admits])]
    let parts : List (List Text) :=
      [["-i==a".toList], ["--exclude-prefix".toList, []], ["--skip-nested-functions".toList],
        ["--exclude-prefix=--help".toList], ["-o".toList, "-".toList]]
    List.Forall₂ Spells occurrences parts ∧
      ∃ settings, parse parts.flatten = .ok settings ∧ settings.input.toList = ["=a".toList] ∧
        settings.output.toList = ["-".toList] ∧ settings.logLevel = "warn".toList ∧
        settings.exclusion.prefixes = ["__func__.".toList, [], "--help".toList] := by
  intro occurrences parts
  have empty : IsWord [] := .inr (by decide)
  have hyphen : IsWord "-".toList := .inl rfl
  have spelled : List.Forall₂ Spells occurrences parts := by
    refine .cons (.shortEquals _ rfl) (.cons (.longApart _ empty) (.cons .switch
      (.cons (.long _) (.cons (.shortApart _ rfl hyphen) .nil))))
  have single : AtMostOnce occurrences := by
    intro parameter single
    rcases parameter with option | switch
    · cases option with
      | excludePrefix => exact absurd rfl single
      | input | output | logLevel => decide
    · cases switch <;> decide
  obtain ⟨accepted, -, given, -⟩ := parse_spelled spelled
  obtain ⟨settings, parsed⟩ := accepted.mpr single
  obtain ⟨gives, level, prefixes, -⟩ := given settings parsed
  exact ⟨spelled, settings, parsed, gives.input, gives.output, level,
    prefixes (by simp [occurrences])⟩

end CommandLine

end KernelSymbols
