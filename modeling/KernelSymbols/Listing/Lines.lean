import KernelSymbols.Text.Basic

set_option autoImplicit false

namespace KernelSymbols

def lineFeed : UInt8 := 0x0A

namespace Listing

def lines : Bytes → List Bytes
  | [] => []
  | byte :: rest =>
      if byte = lineFeed then [] :: lines rest
      else match lines rest with
        | [] => [[byte]]
        | first :: others => (byte :: first) :: others

theorem lines_ne_nil {bytes : Bytes} (nonempty : bytes ≠ []) : lines bytes ≠ [] := by
  cases bytes with
  | nil => exact absurd rfl nonempty
  | cons byte rest =>
      rw [lines]
      split
      · simp
      · split <;> simp

theorem lines_line_append {line : Bytes} (h : lineFeed ∉ line) (rest : Bytes) :
    lines (line ++ lineFeed :: rest) = line :: lines rest := by
  induction line with
  | nil => simp [lines]
  | cons byte line ih =>
      simp only [List.mem_cons, not_or] at h
      simp [lines, Ne.symm h.1, ih h.2]

theorem lines_of_not_mem {line : Bytes} (h : lineFeed ∉ line) (nonempty : line ≠ []) :
    lines line = [line] := by
  induction line with
  | nil => exact absurd rfl nonempty
  | cons byte line ih =>
      simp only [List.mem_cons, not_or] at h
      cases line with
      | nil => simp [lines, Ne.symm h.1]
      | cons next line => rw [lines, if_neg (Ne.symm h.1), ih h.2 (by simp)]

theorem not_mem_of_mem_lines {bytes line : Bytes} (member : line ∈ lines bytes) :
    lineFeed ∉ line := by
  induction bytes generalizing line with
  | nil => cases member
  | cons byte rest ih =>
      by_cases ends : byte = lineFeed
      · rw [lines, if_pos ends] at member
        rcases List.mem_cons.mp member with rfl | later
        · exact List.not_mem_nil
        · exact ih later
      · rw [lines, if_neg ends] at member
        cases split : lines rest with
        | nil =>
            rw [split] at member
            rw [List.mem_singleton.mp member]
            simpa using Ne.symm ends
        | cons first others =>
            rw [split] at member ih
            rcases List.mem_cons.mp member with rfl | later
            · have begun := ih List.mem_cons_self
              simp [Ne.symm ends, begun]
            · exact ih (List.mem_cons_of_mem first later)

/-- A listing in which every line is ended. -/
def ofLines (parts : List Bytes) : Bytes := parts.flatMap (· ++ [lineFeed])

theorem ofLines_cons (line : Bytes) (rest : List Bytes) :
    ofLines (line :: rest) = line ++ lineFeed :: ofLines rest := by
  simp [ofLines]

theorem lines_ofLines_append {parts : List Bytes} (unbroken : ∀ line ∈ parts, lineFeed ∉ line)
    (rest : Bytes) : lines (ofLines parts ++ rest) = parts ++ lines rest := by
  induction parts with
  | nil => rfl
  | cons line others ih =>
      obtain ⟨first, later⟩ := List.forall_mem_cons.mp unbroken
      rw [ofLines_cons, List.append_assoc, List.cons_append, lines_line_append first, ih later,
        List.cons_append]

theorem lines_ofLines {parts : List Bytes} (unbroken : ∀ line ∈ parts, lineFeed ∉ line) :
    lines (ofLines parts) = parts := by
  have ended := lines_ofLines_append unbroken []
  rwa [List.append_nil, lines, List.append_nil] at ended

theorem lines_dropLast_ofLines {parts : List Bytes} (unbroken : ∀ line ∈ parts, lineFeed ∉ line)
    (nonempty : ∀ last ∈ parts.getLast?, last ≠ []) :
    lines (ofLines parts).dropLast = parts := by
  rcases List.eq_nil_or_concat parts with rfl | ⟨earlier, last, rfl⟩
  · rfl
  · simp only [List.concat_eq_append] at unbroken nonempty ⊢
    simp only [List.mem_append, List.mem_singleton, or_imp, forall_and, forall_eq] at unbroken
    have final : last ≠ [] := nonempty last (by simp)
    have dropped : (ofLines (earlier ++ [last])).dropLast = ofLines earlier ++ last := by
      simp [ofLines, ← List.append_assoc]
    rw [dropped, lines_ofLines_append unbroken.1, lines_of_not_mem unbroken.2 final]

theorem count_ofLines {parts : List Bytes} (unbroken : ∀ line ∈ parts, lineFeed ∉ line) :
    (ofLines parts).count lineFeed = parts.length := by
  induction parts with
  | nil => rfl
  | cons line rest ih =>
      obtain ⟨first, others⟩ := List.forall_mem_cons.mp unbroken
      rw [ofLines_cons, List.count_append, List.count_eq_zero.mpr first, List.count_cons_self,
        ih others, Nat.zero_add, List.length_cons]

theorem of_lines_eq_cons {bytes line : Bytes} {others : List Bytes}
    (split : lines bytes = line :: others) :
    (bytes = line ∧ others = []) ∨
      ∃ rest, bytes = line ++ lineFeed :: rest ∧ others = lines rest := by
  by_cases ended : lineFeed ∈ bytes
  · obtain ⟨first, rest, rfl, whole⟩ := List.eq_append_cons_of_mem ended
    rw [lines_line_append whole] at split
    obtain ⟨rfl, rfl⟩ := List.cons_eq_cons.mp split
    exact Or.inr ⟨rest, rfl, rfl⟩
  · by_cases empty : bytes = []
    · simp [empty, lines] at split
    · rw [lines_of_not_mem ended empty] at split
      obtain ⟨rfl, rfl⟩ := List.cons_eq_cons.mp split
      exact Or.inl ⟨rfl, rfl⟩

@[elab_as_elim]
theorem lines_induction {motive : Bytes → Prop} (bytes : Bytes) (nil : motive [])
    (last : ∀ line, lineFeed ∉ line → line ≠ [] → motive line)
    (ended : ∀ line rest, lineFeed ∉ line → motive rest → motive (line ++ lineFeed :: rest)) :
    motive bytes := by
  induction split : lines bytes generalizing bytes with
  | nil =>
      have empty : bytes = [] :=
        Decidable.byContradiction fun nonempty => lines_ne_nil nonempty split
      exact empty ▸ nil
  | cons line others ih =>
      have unbroken : lineFeed ∉ line := not_mem_of_mem_lines (split ▸ List.mem_cons_self)
      rcases of_lines_eq_cons split with ⟨rfl, -⟩ | ⟨rest, rfl, later⟩
      · have nonempty : bytes ≠ [] := by
          rintro rfl
          cases split
        exact last bytes unbroken nonempty
      · exact ended line rest unbroken (ih rest later.symm)

theorem ofLines_prefix {bytes line : Bytes} {before after : List Bytes}
    (split : lines bytes = before ++ line :: after) : ofLines before <+: bytes := by
  induction before generalizing bytes with
  | nil => exact List.nil_prefix
  | cons first others ih =>
      rcases of_lines_eq_cons split with ⟨-, none⟩ | ⟨rest, rfl, later⟩
      · simp at none
      · rw [ofLines_cons, List.prefix_append_right_inj, List.cons_prefix_cons]
        exact ⟨rfl, ih later.symm⟩

end Listing

end KernelSymbols
