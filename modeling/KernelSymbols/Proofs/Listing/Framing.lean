import KernelSymbols.Listing.Fields
import Mathlib.Data.List.Basic

set_option autoImplicit false

namespace KernelSymbols.Fields

-- How a line is put together. White space other than the plain space may stand within a field, but
-- not where a field meets the white space around the fields.
structure Framed (before : Text) (fields : Fields) (after line : Text) : Prop where
  spelled : line = before ++ fields.line ++ after
  blank : ∀ c ∈ before ++ after, Text.isBlank c = true
  nonempty : fields.address ≠ [] ∧ fields.size ≠ [] ∧ fields.kind ≠ [] ∧ fields.name ≠ []
  spaceless : ' ' ∉ fields.address ∧ ' ' ∉ fields.size ∧ ' ' ∉ fields.kind ∧ ' ' ∉ fields.name
  first : ∀ c ∈ fields.address.head?, Text.isBlank c = false
  last : ∀ c ∈ fields.name.getLast?, Text.isBlank c = false

theorem head?_line {fields : Fields} (h : fields.address ≠ []) :
    fields.line.head? = fields.address.head? := by
  rw [line, List.append_assoc, List.append_assoc, List.head?_append_of_ne_nil _ h]

theorem getLast?_line {fields : Fields} (h : fields.name ≠ []) :
    fields.line.getLast? = fields.name.getLast? := by
  rw [line, List.append_cons, List.getLast?_append_of_ne_nil _ h]

variable {before after line : Text} {fields : Fields}

theorem Framed.trimmed (framed : Framed before fields after line) : Text.Trimmed fields.line := by
  obtain ⟨address, -, -, name⟩ := framed.nonempty
  rw [Text.Trimmed, head?_line address, getLast?_line name]
  exact ⟨framed.first, framed.last⟩

theorem Framed.blank_ends (framed : Framed before fields after line) :
    before.all Text.isBlank = true ∧ after.all Text.isBlank = true := by
  have blank := framed.blank
  simp only [List.mem_append, or_imp, forall_and] at blank
  simpa only [List.all_eq_true] using blank

theorem Framed.ofLine?_eq_some (framed : Framed before fields after line) :
    ofLine? line = some fields := by
  obtain ⟨blank_before, blank_after⟩ := framed.blank_ends
  obtain ⟨address, size, kind, name⟩ := framed.nonempty
  obtain ⟨in_address, in_size, in_kind, in_name⟩ := framed.spaceless
  have trimmed : Text.trim line = fields.line := by
    rw [framed.spelled, Text.trim_padded blank_before blank_after,
      Text.trim_of_trimmed framed.trimmed]
  exact ofLine?_eq_some_iff.mpr
    ⟨trimmed, ⟨address, size, kind, name, in_name⟩, in_address, in_size, in_kind⟩

theorem exists_framed (read : ofLine? line = some fields) :
    ∃ before after, Framed before fields after line := by
  obtain ⟨trimmed, ⟨address, size, kind, name, in_name⟩, in_address, in_size, in_kind⟩ :=
    ofLine?_eq_some_iff.mp read
  obtain ⟨before, after, blank_before, blank_after, padded⟩ := Text.exists_trim line
  have ends := Text.trimmed_trim line
  rw [trimmed] at padded ends
  rw [Text.Trimmed, head?_line address, getLast?_line name] at ends
  have blank : ∀ c ∈ before ++ after, Text.isBlank c = true := by
    rw [← List.all_eq_true, List.all_append, blank_before, blank_after, Bool.and_self]
  exact ⟨before, after,
    { spelled := padded
      blank := blank
      nonempty := ⟨address, size, kind, name⟩
      spaceless := ⟨in_address, in_size, in_kind, in_name⟩
      first := ends.1
      last := ends.2 }⟩

theorem Framed.before_eq (framed : Framed before fields after line) :
    before = line.takeWhile Text.isBlank := by
  have blank := framed.blank_ends.1
  rw [List.all_eq_true] at blank
  have stop : (fields.line ++ after).takeWhile Text.isBlank = [] := by
    obtain ⟨c, rest, begun⟩ := List.exists_cons_of_ne_nil framed.nonempty.1
    have visible : Text.isBlank c = false := framed.first c (by rw [begun]; rfl)
    simp [Fields.line, begun, visible]
  rw [framed.spelled, List.append_assoc, List.takeWhile_append_of_pos blank, stop, List.append_nil]

theorem Framed.unique (framed : Framed before fields after line) {others : Fields}
    {lead trail : Text} (other : Framed lead others trail line) :
    before = lead ∧ fields = others ∧ after = trail := by
  have same : fields = others :=
    Option.some.inj (framed.ofLine?_eq_some.symm.trans other.ofLine?_eq_some)
  have lead_eq : before = lead := framed.before_eq.trans other.before_eq.symm
  subst same lead_eq
  have spelled := framed.spelled.symm.trans other.spelled
  exact ⟨rfl, rfl, List.append_cancel_left spelled⟩

theorem fields_of_framed_line (line : Text) :
    (∀ fields, Fields.ofLine? line = some fields ↔
        ∃ before after, Framed before fields after line) ∧
      (Fields.ofLine? line = none ↔ ∀ before fields after, ¬ Framed before fields after line) ∧
      ∀ before fields after lead others trail,
        Framed before fields after line → Framed lead others trail line →
          before = lead ∧ fields = others ∧ after = trail := by
  have reads (fields : Fields) :
      Fields.ofLine? line = some fields ↔ ∃ before after, Framed before fields after line := by
    constructor
    · exact exists_framed
    · intro found
      obtain ⟨before, after, framed⟩ := found
      exact framed.ofLine?_eq_some
  refine ⟨reads, ?_, ?_⟩
  · rw [Option.eq_none_iff_forall_ne_some]
    constructor
    · intro unread before fields after framed
      exact unread fields framed.ofLine?_eq_some
    · intro unframed fields read
      obtain ⟨before, after, framed⟩ := exists_framed read
      exact unframed before fields after framed
  · intro before fields after lead others trail framed other
    exact framed.unique other

-- Tabs stand inside the fields and at the end of one, and other white space around them all.
theorem fields_of_tabbed_line :
    let line := " \u30001\t0 2 T\t a\tb\t \n".toList
    let fields : Fields := ⟨"1\t0".toList, ['2'], "T\t".toList, "a\tb".toList⟩
    Framed [' ', '\u3000'] fields "\t \n".toList line ∧ Fields.ofLine? line = some fields ∧
      ∀ lead others trail, Framed lead others trail line →
        lead = [' ', '\u3000'] ∧ others = fields ∧ trail = "\t \n".toList := by
  intro line fields
  have framed : Framed [' ', '\u3000'] fields "\t \n".toList line :=
    { spelled := by decide
      blank := by simp [Text.isBlank]
      nonempty := by decide
      spaceless := by decide
      first := by simp [fields, Text.isBlank]
      last := by simp [fields, Text.isBlank] }
  obtain ⟨reads, -, unique⟩ := fields_of_framed_line line
  refine ⟨framed, (reads fields).mpr ⟨_, _, framed⟩, ?_⟩
  intro lead others trail other
  exact unique _ _ _ _ _ _ other framed

end KernelSymbols.Fields
