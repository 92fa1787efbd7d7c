set_option autoImplicit false

namespace KernelSymbols

abbrev Text := List Char

abbrev Bytes := List UInt8

namespace Text

def decimal (n : Nat) : Text := Nat.toDigits 10 n

theorem not_mem_decimal (n : Nat) {c : Char} (other : c.isDigit = false) : c ∉ decimal n := by
  intro member
  have digit := Nat.isDigit_of_mem_toDigits (by decide) (by decide) member
  simp [digit] at other

def cut? (separator : Char) : Text → Option (Text × Text)
  | [] => none
  | c :: rest =>
      if c = separator then some ([], rest)
      else (cut? separator rest).map fun (left, right) => (c :: left, right)

theorem cut?_eq_none_iff (separator : Char) (text : Text) :
    cut? separator text = none ↔ separator ∉ text := by
  induction text with
  | nil => simp [cut?]
  | cons c rest ih =>
      by_cases h : c = separator
      · simp [cut?, h]
      · simp [cut?, h, ih, Ne.symm h]

theorem cut?_eq_some_iff {separator : Char} {text left right : Text} :
    cut? separator text = some (left, right) ↔
      text = left ++ separator :: right ∧ separator ∉ left := by
  induction text generalizing left with
  | nil => simp [cut?]
  | cons c rest ih =>
      by_cases h : c = separator
      · subst h
        cases left with
        | nil => simp [cut?]
        | cons d left =>
            simp only [cut?, ↓reduceIte, Option.some.injEq, Prod.mk.injEq, List.cons_append,
              List.cons.injEq, List.mem_cons, not_or]
            grind
      · simp only [cut?, h, ↓reduceIte, Option.map_eq_some_iff, Prod.exists, Prod.mk.injEq]
        cases left with
        | nil => simp [h]
        | cons d left =>
            simp only [List.cons_append, List.cons.injEq, List.mem_cons, not_or]
            constructor
            · intro cut
              obtain ⟨l, r, hcut, ⟨rfl, rfl⟩, rfl⟩ := cut
              have := ih.mp hcut
              exact ⟨⟨rfl, this.1⟩, Ne.symm h, this.2⟩
            · intro joined
              obtain ⟨⟨rfl, hrest⟩, -, hleft⟩ := joined
              exact ⟨left, right, ih.mpr ⟨hrest, hleft⟩, ⟨rfl, rfl⟩, rfl⟩

def pieces (separator : Char) : Text → List Text
  | [] => [[]]
  | c :: rest =>
      if c = separator then [] :: pieces separator rest
      else match pieces separator rest with
        | [] => [[c]]
        | first :: others => (c :: first) :: others

def join (separator : Char) : List Text → Text
  | [] => []
  | [piece] => piece
  | piece :: next :: others => piece ++ separator :: join separator (next :: others)

theorem pieces_ne_nil (separator : Char) (text : Text) : pieces separator text ≠ [] := by
  cases text with
  | nil => simp [pieces]
  | cons c rest =>
      simp only [pieces]
      split
      · simp
      · split <;> simp

theorem join_cons (separator : Char) (piece : Text) {others : List Text} (h : others ≠ []) :
    join separator (piece :: others) = piece ++ separator :: join separator others := by
  cases others with
  | nil => exact absurd rfl h
  | cons next others => rfl

theorem join_pieces (separator : Char) (text : Text) :
    join separator (pieces separator text) = text := by
  induction text with
  | nil => rfl
  | cons c rest ih =>
      have nonempty := pieces_ne_nil separator rest
      by_cases h : c = separator
      · simp [pieces, h, join_cons separator [] nonempty, ih]
      · simp only [pieces, h, ↓reduceIte]
        cases hp : pieces separator rest with
        | nil => exact absurd hp nonempty
        | cons first others =>
            rw [hp] at ih
            cases others with
            | nil => simpa [join] using ih
            | cons next others =>
                rw [join_cons separator _ (by simp)] at ih ⊢
                simp [ih]

theorem pieces_of_not_mem {separator : Char} {text : Text} (h : separator ∉ text) :
    pieces separator text = [text] := by
  induction text with
  | nil => rfl
  | cons c rest ih =>
      simp only [List.mem_cons, not_or] at h
      simp [pieces, Ne.symm h.1, ih h.2]

theorem pieces_append_separator (separator : Char) (left right : Text) :
    pieces separator (left ++ separator :: right) =
      pieces separator left ++ pieces separator right := by
  induction left with
  | nil => simp [pieces]
  | cons c rest ih =>
      by_cases h : c = separator
      · simp [pieces, h, ih]
      · obtain ⟨first, others, split⟩ := List.exists_cons_of_ne_nil (pieces_ne_nil separator rest)
        simp [pieces, h, ih, split]

theorem pieces_append_cons {separator : Char} {left : Text} (h : separator ∉ left)
    (right : Text) :
    pieces separator (left ++ separator :: right) = left :: pieces separator right := by
  rw [pieces_append_separator, pieces_of_not_mem h, List.singleton_append]

theorem pieces_append {separator : Char} {head : Text} (h : separator ∉ head) (rest : Text) :
    ∃ first others, pieces separator rest = first :: others ∧
      pieces separator (head ++ rest) = (head ++ first) :: others := by
  induction head with
  | nil =>
      obtain ⟨first, others, split⟩ := List.exists_cons_of_ne_nil (pieces_ne_nil separator rest)
      exact ⟨first, others, split, split⟩
  | cons c head ih =>
      simp only [List.mem_cons, not_or] at h
      obtain ⟨first, others, split, joined⟩ := ih h.2
      exact ⟨first, others, split, by simp [pieces, Ne.symm h.1, joined]⟩

theorem pieces_flatten (separator : Char) (parts : List Text) :
    pieces separator (parts.map (· ++ [separator])).flatten =
      parts.flatMap (pieces separator) ++ [[]] := by
  induction parts with
  | nil => rfl
  | cons part rest ih =>
      rw [List.map_cons, List.flatten_cons, List.append_assoc, List.singleton_append,
        pieces_append_separator, ih, List.flatMap_cons, List.append_assoc]

theorem infix_join {separator : Char} {piece : Text} {parts : List Text} (member : piece ∈ parts) :
    piece <:+: join separator parts := by
  induction parts with
  | nil => cases member
  | cons first others ih =>
      by_cases last : others = []
      · subst last
        rw [List.mem_singleton.mp member]
        exact List.infix_rfl
      · rw [join_cons separator first last]
        rcases List.mem_cons.mp member with rfl | later
        · exact (List.prefix_append _ _).isInfix
        · apply (ih later).trans
          rw [List.append_cons]
          exact (List.suffix_append _ _).isInfix

theorem infix_of_mem_pieces {separator : Char} {text piece : Text}
    (member : piece ∈ pieces separator text) : piece <:+: text := by
  have inside : piece <:+: join separator (pieces separator text) := infix_join member
  rwa [join_pieces] at inside

def withoutReturn (line : Text) : Text :=
  if line.getLast? = some '\r' then line.dropLast else line

/-- The lines of a text that ends with a line feed, here left out. A carriage return directly before
a line feed belongs to the end of the line. -/
def lines (text : Text) : List Text := (pieces '\n' text).map withoutReturn

end Text

end KernelSymbols
