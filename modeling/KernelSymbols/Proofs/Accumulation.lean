import KernelSymbols.Proofs.Listing.Judgement
import Mathlib.Data.List.TakeWhile

set_option autoImplicit false

namespace KernelSymbols

def SymbolTable.pushAll (table : SymbolTable) (symbols : List Symbol) : SymbolTable :=
  symbols.foldl push table

@[simp] theorem SymbolTable.toList_pushAll (table : SymbolTable) (symbols : List Symbol) :
    (table.pushAll symbols).toList = table.toList ++ symbols.map Symbol.initializer := by
  rw [pushAll]
  induction symbols generalizing table with
  | nil => simp
  | cons symbol rest ih => simp [ih]

theorem SymbolTable.pushAll_append (table : SymbolTable) (left right : List Symbol) :
    table.pushAll (left ++ right) = (table.pushAll left).pushAll right :=
  List.foldl_append

instance : Add Tally where
  add left right :=
    { lines := left.lines + right.lines
      retained := left.retained + right.retained
      malformed := left.malformed + right.malformed
      excluded := left.excluded + right.excluded }

theorem Tally.add_def (left right : Tally) :
    left + right =
      ⟨left.lines + right.lines, left.retained + right.retained,
        left.malformed + right.malformed, left.excluded + right.excluded⟩ := rfl

theorem Tally.add_assoc (first second third : Tally) :
    first + second + third = first + (second + third) := by
  simp only [add_def, Nat.add_assoc]

@[simp] theorem Tally.zero_add (tally : Tally) : ({} : Tally) + tally = tally := by
  simp [add_def]

theorem all_or_first {α : Type} (fails : α → Bool) (items : List α) :
    (∀ item ∈ items, fails item = false) ∨ ∃ before item after,
      items = before ++ item :: after ∧ (∀ earlier ∈ before, fails earlier = false) ∧
        fails item = true := by
  cases found : items.find? fails with
  | none =>
      left
      simpa using List.find?_eq_none.mp found
  | some item =>
      right
      obtain ⟨failed, before, after, split, earlier⟩ := List.find?_eq_some_iff_append.mp found
      exact ⟨before, item, after, split, by simpa using earlier, failed⟩

namespace Listing

variable (excludes : Text → Bool)

def symbols (lines : List Bytes) : List Symbol := lines.filterMap (symbol? excludes)

def counts (lines : List Bytes) : Tally where
  lines := lines.length
  retained := (lines.filterMap (kept? excludes)).length
  malformed := lines.countP isMalformed
  excluded := lines.countP (isExcluded excludes)

theorem counts_append (left right : List Bytes) :
    counts excludes (left ++ right) = counts excludes left + counts excludes right := by
  simp [counts, Tally.add_def]

def Sound (lines : List Bytes) : Prop := ∀ line ∈ lines, isFatal excludes line = false

theorem sound_cons {line : Bytes} {rest : List Bytes} :
    Sound excludes (line :: rest) ↔ isFatal excludes line = false ∧ Sound excludes rest := by
  simp [Sound]

theorem sound_or_fatal (lines : List Bytes) :
    Sound excludes lines ∨ ∃ before line after, lines = before ++ line :: after ∧
      Sound excludes before ∧ isFatal excludes line = true :=
  all_or_first (isFatal excludes) lines

theorem not_sound_of_fatal {line : Bytes} (fatal : isFatal excludes line = true)
    {before after : List Bytes} : ¬ Sound excludes (before ++ line :: after) := by
  intro sound
  simp [sound line (by simp)] at fatal

theorem exists_first_fatal {line : Bytes} (fatal : isFatal excludes line = true)
    (before after : List Bytes) :
    ∃ earlier first later, before ++ line :: after = earlier ++ first :: later ∧
      Sound excludes earlier ∧ isFatal excludes first = true ∧
      earlier.length ≤ before.length := by
  rcases sound_or_fatal excludes before with sound | ⟨earlier, first, later, rfl, sound, faulty⟩
  · exact ⟨before, line, after, rfl, sound, fatal, Nat.le_refl _⟩
  · exact ⟨earlier, first, later ++ line :: after, by simp, sound, faulty, by simp⟩

def accepted (lines : List Bytes) : List Bytes :=
  lines.takeWhile fun line => !isFatal excludes line

theorem accepted_of_sound {lines : List Bytes} (sound : Sound excludes lines) :
    accepted excludes lines = lines := by
  apply List.takeWhile_eq_self_iff.mpr
  simpa [Sound] using sound

theorem accepted_of_fatal {before : List Bytes} {line : Bytes} (sound : Sound excludes before)
    (fatal : isFatal excludes line = true) (after : List Bytes) :
    accepted excludes (before ++ line :: after) = before := by
  rw [accepted, List.takeWhile_append_of_pos (by simpa [Sound] using sound)]
  simp [fatal]

theorem filterMap_kept? {lines : List Bytes} (sound : Sound excludes lines) :
    lines.filterMap (kept? excludes) = (symbols excludes lines).map Symbol.fields := by
  induction lines with
  | nil => rfl
  | cons line rest ih =>
      obtain ⟨first, others⟩ := (sound_cons excludes).mp sound
      have next := ih others
      unfold symbols at next ⊢
      obtain ⟨text, -, judgement⟩ := judgement_of_not_fatal excludes first
      rcases judgement with ⟨-, -, -, kept⟩ | ⟨-, -, -, kept⟩ | ⟨symbol, -, -, -, kept⟩
      · simp [kept, symbol?, next]
      · simp [kept, symbol?, next]
      · simp [kept, (symbol?_eq_some_iff excludes).mpr kept, next]

end Listing

namespace Collector

open Listing

variable (excludes : Text → Bool)

def withLines (collector : Collector) (lines : List Bytes) : Collector where
  table := collector.table.pushAll (symbols excludes lines)
  tally := collector.tally + counts excludes lines

theorem withLines_append (collector : Collector) (left right : List Bytes) :
    collector.withLines excludes (left ++ right) =
      (collector.withLines excludes left).withLines excludes right := by
  simp only [withLines, symbols, List.filterMap_append, SymbolTable.pushAll_append, counts_append,
    Tally.add_assoc]

-- A fatal line is counted if it is text, and leaves the rest as it is.
def spoil (collector : Collector) (line : Bytes) : Collector :=
  if (Utf8.decode line).isSome then collector.countLine else collector

theorem retained_spoil (collector : Collector) (line : Bytes) :
    (collector.spoil line).tally.retained = collector.tally.retained := by
  rw [spoil]
  split <;> rfl

theorem addBytes_of_not_fatal {line : Bytes} (sound : isFatal excludes line = false)
    (collector : Collector) :
    collector.addBytes excludes line = (collector.withLines excludes [line], .ok ()) := by
  obtain ⟨text, decoded, judgement⟩ := judgement_of_not_fatal excludes sound
  simp only [addBytes, decoded, addLine, withLines]
  rcases judgement with ⟨verdict, malformed, excluded, kept⟩ |
      ⟨verdict, malformed, excluded, kept⟩ | ⟨symbol, verdict, malformed, excluded, kept⟩
  · simp [verdict, note, countLine, Verdict.outcome, symbols, symbol?, counts, malformed, excluded,
      kept, Tally.add_def, SymbolTable.pushAll]
  · simp [verdict, note, countLine, Verdict.outcome, symbols, symbol?, counts, malformed, excluded,
      kept, Tally.add_def, SymbolTable.pushAll]
  · have found := (symbol?_eq_some_iff excludes).mpr kept
    simp [verdict, note, countLine, Verdict.outcome, symbols, found, counts, malformed, excluded,
      kept, Tally.add_def, SymbolTable.pushAll]

theorem addBytes_of_fatal {line : Bytes} (fatal : isFatal excludes line = true)
    (collector : Collector) :
    collector.addBytes excludes line =
      (collector.spoil line, .error (report excludes (collector.tally.lines + 1) line)) := by
  rcases judgement_of_fatal excludes fatal with ⟨decoded, kept⟩ |
      ⟨text, fields, decoded, kept, verdict⟩
  · simp [addBytes, spoil, report, decoded, kept]
  · simp [addBytes, spoil, report, decoded, kept, addLine, verdict, note, Verdict.outcome]

theorem addAll_singleton (collector : Collector) (line : Bytes) :
    collector.addAll excludes [line] = collector.addBytes excludes line := by
  rw [addAll]
  rcases collector.addBytes excludes line with ⟨next, (error | _)⟩ <;> rfl

theorem addAll_append (collector : Collector) (before after : List Bytes) :
    collector.addAll excludes (before ++ after) =
      match collector.addAll excludes before with
      | (next, .ok ()) => next.addAll excludes after
      | reported => reported := by
  induction before generalizing collector with
  | nil => rfl
  | cons line rest ih =>
      rw [List.cons_append, addAll, addAll]
      rcases collector.addBytes excludes line with ⟨next, (error | _)⟩
      · rfl
      · exact ih next

theorem addAll_append_of_sound {before : List Bytes} (sound : Sound excludes before)
    (collector : Collector) (after : List Bytes) :
    collector.addAll excludes (before ++ after) =
      (collector.withLines excludes before).addAll excludes after := by
  induction before generalizing collector with
  | nil => rfl
  | cons line rest ih =>
      obtain ⟨first, others⟩ := (sound_cons excludes).mp sound
      rw [List.cons_append, addAll, addBytes_of_not_fatal excludes first]
      dsimp only
      rw [ih others, ← withLines_append]
      rfl

theorem addAll_of_sound {lines : List Bytes} (sound : Sound excludes lines)
    (collector : Collector) :
    collector.addAll excludes lines = (collector.withLines excludes lines, .ok ()) := by
  have all := addAll_append_of_sound excludes sound collector []
  rwa [List.append_nil] at all

theorem addAll_of_fatal {before : List Bytes} {line : Bytes} (sound : Sound excludes before)
    (fatal : isFatal excludes line = true) (collector : Collector) (after : List Bytes) :
    collector.addAll excludes (before ++ line :: after) =
      ((collector.withLines excludes before).spoil line,
        .error (report excludes (collector.tally.lines + before.length + 1) line)) := by
  rw [addAll_append_of_sound excludes sound, addAll, addBytes_of_fatal excludes fatal]
  rfl

theorem snd_addAll_eq_ok_iff {collector : Collector} {lines : List Bytes} :
    (collector.addAll excludes lines).2 = .ok () ↔ Sound excludes lines := by
  rcases sound_or_fatal excludes lines with sound | ⟨before, line, after, rfl, sound, fatal⟩
  · simp [addAll_of_sound excludes sound, sound]
  · simp [addAll_of_fatal excludes sound fatal, not_sound_of_fatal excludes fatal]

theorem lines_addAll {collector next : Collector} {lines : List Bytes}
    (added : collector.addAll excludes lines = (next, .ok ())) :
    next.tally.lines = collector.tally.lines + lines.length := by
  have sound := (snd_addAll_eq_ok_iff excludes).mp (congrArg Prod.snd added)
  rw [addAll_of_sound excludes sound] at added
  obtain ⟨rfl, -⟩ := Prod.mk.inj added
  rfl

theorem addAll_error {collector : Collector} {lines : List Bytes} {error : ListingError}
    (reported : (collector.addAll excludes lines).2 = .error error) :
    ∃ before line after, lines = before ++ line :: after ∧ Sound excludes before ∧
      isFatal excludes line = true ∧
      error = report excludes (collector.tally.lines + before.length + 1) line := by
  rcases sound_or_fatal excludes lines with sound | ⟨before, line, after, rfl, sound, fatal⟩
  · rw [addAll_of_sound excludes sound] at reported
    cases reported
  · rw [addAll_of_fatal excludes sound fatal] at reported
    exact ⟨before, line, after, rfl, sound, fatal, (Except.error.inj reported).symm⟩

theorem table_addAll (collector : Collector) (lines : List Bytes) :
    (collector.addAll excludes lines).1.table =
      collector.table.pushAll (symbols excludes (accepted excludes lines)) := by
  rcases sound_or_fatal excludes lines with sound | ⟨before, line, after, rfl, sound, fatal⟩
  · rw [addAll_of_sound excludes sound, accepted_of_sound excludes sound]
    rfl
  · rw [addAll_of_fatal excludes sound fatal, accepted_of_fatal excludes sound fatal, spoil]
    split <;> rfl

theorem addAll_snd_ne_stream (collector : Collector) (lines : List Bytes) (message : Text) :
    (collector.addAll excludes lines).2 ≠ .error (.stream message) := by
  intro reported
  obtain ⟨_, line, _, -, -, -, same⟩ := addAll_error excludes reported
  exact report_ne_stream excludes _ line message same.symm

end Collector

end KernelSymbols
