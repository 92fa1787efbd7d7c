import KernelSymbols.Proofs.Accumulation
import KernelSymbols.Proofs.Text.Validity
import KernelSymbols.Reader

set_option autoImplicit false

namespace KernelSymbols

namespace Listing

open Utf8

theorem valid_iff_lines (bytes : Bytes) : Valid bytes ↔ ∀ line ∈ lines bytes, Valid line := by
  induction bytes using lines_induction with
  | nil => simp [lines, valid_nil]
  | last line unbroken nonempty =>
      rw [lines_of_not_mem unbroken nonempty, List.forall_mem_singleton]
  | ended line rest unbroken ih =>
      rw [lines_line_append unbroken, valid_append_cons_iff (by decide), List.forall_mem_cons, ih]

theorem exists_first_invalid {bytes : Bytes} (invalid : ¬ Valid bytes) :
    ∃ before line after, lines bytes = before ++ line :: after ∧
      (∀ earlier ∈ before, Valid earlier) ∧ ¬ Valid line := by
  rcases all_or_first (fun line => !decide (Valid line)) (lines bytes) with
    valid | ⟨before, line, after, split, earlier, bad⟩
  · exact absurd ((valid_iff_lines bytes).mpr (by simpa using valid)) invalid
  · exact ⟨before, line, after, split, by simpa using earlier, by simpa using bad⟩

theorem exists_texts {parts : List Bytes} (valid : ∀ part ∈ parts, Valid part) :
    ∃ texts : List Text, parts = texts.map encode := by
  induction parts with
  | nil => exact ⟨[], rfl⟩
  | cons part rest ih =>
      obtain ⟨⟨text, rfl⟩, others⟩ := List.forall_mem_cons.mp valid
      obtain ⟨texts, rfl⟩ := ih others
      exact ⟨text :: texts, rfl⟩

-- The bytes up to the first that cannot belong to a text.
def validPart (bytes : Bytes) : Bytes := bytes.take (validLength bytes)

theorem count_validPart {bytes line : Bytes} {before after : List Bytes}
    (split : lines bytes = before ++ line :: after) (valid : ∀ earlier ∈ before, Valid earlier)
    (invalid : ¬ Valid line) : (validPart bytes).count lineFeed = before.length := by
  have unbroken : ∀ earlier ∈ before, lineFeed ∉ earlier := by
    intro earlier member
    have inside : earlier ∈ lines bytes := split ▸ List.mem_append_left _ member
    exact not_mem_of_mem_lines inside
  have start := ofLines_prefix split
  have ended : Valid (ofLines before) := by
    rw [valid_iff_lines, lines_ofLines unbroken]
    exact valid
  have reached : (ofLines before).length ≤ (validPart bytes).length := by
    rw [validPart, List.length_take]
    exact Nat.le_min.mpr ⟨le_validLength start ended, start.length_le⟩
  obtain ⟨begun, part⟩ :=
    List.prefix_of_prefix_length_le start (List.take_prefix (validLength bytes) bytes) reached
  have absent : lineFeed ∉ begun := by
    -- A line feed would end the same line in the valid part as in the whole.
    intro member
    obtain ⟨first, rest, rfl, whole⟩ := List.eq_append_cons_of_mem member
    have readable := (valid_iff_lines _).mp (valid_take_validLength bytes)
    rw [← part, lines_ofLines_append unbroken, lines_line_append whole] at readable
    have same : lines bytes =
        before ++ first :: lines (rest ++ bytes.drop (validLength bytes)) := by
      conv => lhs; rw [← List.take_append_drop (validLength bytes) bytes, ← part]
      rw [List.append_assoc, lines_ofLines_append unbroken, List.append_assoc, List.cons_append,
        lines_line_append whole]
    have first_eq : line = first :=
      (List.cons_eq_cons.mp (List.append_cancel_left (split.symm.trans same))).1
    exact invalid (first_eq ▸ readable first (by simp))
  rw [validPart, ← part, List.count_append, count_ofLines unbroken, List.count_eq_zero.mpr absent,
    Nat.add_zero]

end Listing

namespace Collector

open Listing

variable (excludes : Text → Bool)

def addLines : Collector → List Text → Collector × Outcome
  | collector, [] => (collector, .ok ())
  | collector, line :: rest =>
      match collector.addLine excludes line with
      | (collector, .ok ()) => collector.addLines rest
      | reported => reported

theorem addAll_encode (collector : Collector) (texts : List Text) :
    collector.addAll excludes (texts.map Utf8.encode) = collector.addLines excludes texts := by
  induction texts generalizing collector with
  | nil => rfl
  | cons line rest ih =>
      rw [List.map_cons, addAll, addLines, addBytes_encode]
      rcases collector.addLine excludes line with ⟨next, (error | _)⟩
      · rfl
      · exact ih next

theorem addLine_error {collector : Collector} {line : Text} {error : ListingError}
    (reported : (collector.addLine excludes line).2 = .error error) :
    ∃ fault, error = .field (collector.tally.lines + 1) fault := by
  rw [addLine] at reported
  cases verdict : Verdict.ofLine excludes line with
  | faulty fault =>
      rw [verdict] at reported
      exact ⟨fault, (Except.error.inj reported).symm⟩
  | _ => rw [verdict] at reported; cases reported

theorem lines_addLines {collector next : Collector} {texts : List Text}
    (added : collector.addLines excludes texts = (next, .ok ())) :
    next.tally.lines = collector.tally.lines + texts.length := by
  rw [← addAll_encode] at added
  have counted := lines_addAll excludes added
  rwa [List.length_map] at counted

theorem addLines_error {collector next : Collector} {texts : List Text} {error : ListingError}
    (reported : collector.addLines excludes texts = (next, .error error)) :
    ∃ number fault, error = .field number fault := by
  induction texts generalizing collector with
  | nil => cases reported
  | cons line rest ih =>
      rw [addLines] at reported
      rcases first : collector.addLine excludes line with ⟨middle, (found | _)⟩
      · rw [first] at reported
        cases reported
        obtain ⟨fault, same⟩ := addLine_error excludes (congrArg Prod.snd first)
        exact ⟨_, fault, same⟩
      · rw [first] at reported
        exact ih reported

theorem readBytes_of_texts (collector : Collector) {bytes : Bytes} {texts : List Text}
    (spelled : Listing.lines bytes = texts.map Utf8.encode) :
    collector.readBytes excludes bytes = collector.addLines excludes texts := by
  rw [readBytes_eq_addAll, spelled, addAll_encode]

theorem addAll_invalid {line : Bytes} (invalid : ¬ Utf8.Valid line) (collector : Collector)
    (after : List Bytes) :
    collector.addAll excludes (line :: after) =
      (collector, .error (.encoding (collector.tally.lines + 1))) := by
  rw [addAll, addBytes, Utf8.decode_eq_none_iff.mpr invalid]

theorem readBytes_checks_text (collector : Collector) (bytes : Bytes) :
    (Utf8.Valid bytes →
        ∀ number, (collector.readBytes excludes bytes).2 ≠ .error (.encoding number)) ∧
      (¬ Utf8.Valid bytes →
        let count := (validPart bytes).count lineFeed
        ∃ texts : List Text, texts.length = count ∧
          texts.map Utf8.encode = (Listing.lines bytes).take count ∧
          match collector.addLines excludes texts with
          | (next, .ok ()) =>
              collector.readBytes excludes bytes =
                (next, .error (.encoding (collector.tally.lines + count + 1)))
          | (next, .error error) =>
              collector.readBytes excludes bytes = (next, .error error) ∧
                ∃ number fault, error = .field number fault) := by
  constructor
  · intro valid number reported
    obtain ⟨texts, spelled⟩ := exists_texts ((valid_iff_lines bytes).mp valid)
    rw [readBytes_of_texts excludes collector spelled] at reported
    obtain ⟨number, fault, same⟩ := addLines_error excludes (Prod.ext rfl reported)
    cases same
  · intro invalid count
    obtain ⟨before, line, after, split, valid, bad⟩ := exists_first_invalid invalid
    obtain ⟨texts, rfl⟩ := exists_texts valid
    have size : texts.length = count := by
      rw [← List.length_map, ← count_validPart split valid bad]
    have first : texts.map Utf8.encode = (Listing.lines bytes).take count := by
      rw [split, ← size, List.take_left' (List.length_map _)]
    refine ⟨texts, size, first, ?_⟩
    rw [readBytes_eq_addAll, split, addAll_append, addAll_encode]
    rcases added : collector.addLines excludes texts with ⟨next, (error | _)⟩
    · exact ⟨rfl, addLines_error excludes added⟩
    · dsimp only
      rw [addAll_invalid excludes bad, lines_addLines excludes added, size]

-- Here a line feed parts the two bytes of a letter, which are text without it.
theorem readBytes_checks_torn_letter :
    let collector : Collector := { tally := { lines := 4 } }
    let listing := Utf8.encode "1 2 T a\n\n".toList
    let whole := listing ++ [0xC3, 0xA9]
    let torn := listing ++ [0xC3, lineFeed, 0xA9]
    Utf8.Valid whole ∧
      (∀ number, (collector.readBytes (fun _ => false) whole).2 ≠ .error (.encoding number)) ∧
      ¬ Utf8.Valid torn ∧ (validPart torn).count lineFeed = 2 ∧
      ∃ texts : List Text, texts.length = 2 ∧
        texts.map Utf8.encode = (Listing.lines torn).take 2 ∧
        match collector.addLines (fun _ => false) texts with
        | (next, .ok ()) =>
            collector.readBytes (fun _ => false) torn = (next, .error (.encoding 7))
        | (next, .error error) =>
            collector.readBytes (fun _ => false) torn = (next, .error error) ∧
              ∃ number fault, error = .field number fault := by
  intro collector listing whole torn
  have valid : Utf8.Valid whole := by decide +kernel
  have invalid : ¬ Utf8.Valid torn := by decide +kernel
  have count : (validPart torn).count lineFeed = 2 := by decide +kernel
  have checked := (readBytes_checks_text (fun _ => false) collector torn).2 invalid
  rw [count] at checked
  exact ⟨valid, (readBytes_checks_text (fun _ => false) collector whole).1 valid, invalid, count,
    checked⟩

end Collector

end KernelSymbols
