import KernelSymbols.Text.Utf8
import Mathlib.Data.Nat.Find

set_option autoImplicit false

namespace KernelSymbols.Utf8

def Valid (bytes : Bytes) : Prop := ∃ text : Text, bytes = encode text

theorem valid_iff_decode {bytes : Bytes} : Valid bytes ↔ (decode bytes).isSome = true := by
  simp only [Valid, Option.isSome_iff_exists, decode_eq_some_iff]

theorem decode_eq_none_iff {bytes : Bytes} : decode bytes = none ↔ ¬ Valid bytes := by
  simp [valid_iff_decode]

instance (bytes : Bytes) : Decidable (Valid bytes) :=
  decidable_of_iff ((decode bytes).isSome = true) valid_iff_decode.symm

theorem valid_nil : Valid [] := ⟨[], rfl⟩

theorem Valid.append {left right : Bytes} (first : Valid left) (second : Valid right) :
    Valid (left ++ right) := by
  obtain ⟨text, rfl⟩ := first
  obtain ⟨others, rfl⟩ := second
  exact ⟨text ++ others, (encode_append text others).symm⟩

theorem encodeChar_eq_cons (c : Char) :
    ∃ lead others, encodeChar c = lead :: others ∧ tail? lead = none ∧
      ∀ b ∈ others, tail? b ≠ none := by
  have bound := toNat_lt c
  unfold encodeChar
  repeat' split
  all_goals
    refine ⟨_, _, rfl, ?_, ?_⟩
    · simp only [tail?, UInt8.toNat_ofNat', ite_eq_right_iff, reduceCtorEq, imp_false]
      omega
    · simp [tail?, UInt8.toNat_ofNat'] <;> omega

theorem valid_of_append_eq {left right : Bytes} {text : Text}
    (spelled : left ++ right = encode text) (border : ∀ b ∈ right.head?, tail? b = none) :
    Valid left ∧ Valid right := by
  induction text generalizing left with
  | nil =>
      obtain ⟨rfl, rfl⟩ := List.append_eq_nil_iff.mp spelled
      exact ⟨valid_nil, valid_nil⟩
  | cons c rest ih =>
      rcases List.append_eq_append_iff.mp spelled with
        ⟨between, first, rfl⟩ | ⟨between, rfl, later⟩
      · cases left with
        | nil => exact ⟨valid_nil, c :: rest, spelled⟩
        | cons lead more =>
            cases between with
            | nil => exact ⟨⟨[c], by simpa using first.symm⟩, rest, rfl⟩
            | cons b after =>
                -- The byte lies inside the encoding of `c`.
                obtain ⟨head, others, whole, -, tails⟩ := encodeChar_eq_cons c
                rw [whole, List.cons_append, List.cons.injEq] at first
                have inside : b ∈ others := by simp [first.2]
                exact absurd (border b rfl) (tails b inside)
      · obtain ⟨valid_between, valid_right⟩ := ih later.symm
        exact ⟨Valid.append ⟨[c], by simp⟩ valid_between, valid_right⟩

theorem valid_append_iff {left right : Bytes} (border : ∀ b ∈ right.head?, tail? b = none) :
    Valid (left ++ right) ↔ Valid left ∧ Valid right := by
  constructor
  · intro whole
    obtain ⟨text, spelled⟩ := whole
    exact valid_of_append_eq spelled border
  · intro parts
    exact parts.1.append parts.2

theorem tail?_eq_none_of_lt {b : UInt8} (small : b.toNat < 0x80) : tail? b = none :=
  if_neg (by omega)

theorem valid_append_cons_iff {b : UInt8} (small : b.toNat < 0x80) {left right : Bytes} :
    Valid (left ++ b :: right) ↔ Valid left ∧ Valid right := by
  have border : ∀ first ∈ (b :: right).head?, tail? first = none := by
    simp [tail?_eq_none_of_lt small]
  have without_first : Valid (b :: right) ↔ Valid right := by
    rw [valid_iff_decode, decode_cons_of_lt small, Option.isSome_map, ← valid_iff_decode]
  rw [valid_append_iff border, without_first]

theorem valid_append_encode_iff {bytes : Bytes} (text : Text) :
    Valid (bytes ++ encode text) ↔ Valid bytes := by
  have border : ∀ b ∈ (encode text).head?, tail? b = none := by
    cases text with
    | nil => simp
    | cons c rest =>
        obtain ⟨lead, others, whole, begins, -⟩ := encodeChar_eq_cons c
        simpa [whole] using begins
  have spelled : Valid (encode text) := ⟨text, rfl⟩
  rw [valid_append_iff border, and_iff_left spelled]

theorem decode_encode_append (text : Text) (bytes : Bytes) :
    decode (encode text ++ bytes) = (decode bytes).map (text ++ ·) := by
  induction text with
  | nil => simp
  | cons c rest ih =>
      rw [encode_cons, List.append_assoc, decode_encodeChar_append, ih, Option.map_map]
      rfl

theorem decode_enclosed (before after : Text) (bytes : Bytes) :
    decode (encode before ++ bytes ++ encode after) =
      (decode bytes).map fun text => before ++ text ++ after := by
  cases decoded : decode bytes with
  | some text =>
      rw [decode_eq_some_iff.mp decoded, ← encode_append, ← encode_append, decode_encode]
      rfl
  | none =>
      rw [Option.map_none, decode_eq_none_iff, valid_append_encode_iff, ← decode_eq_none_iff,
        decode_encode_append, decoded, Option.map_none]

-- The number of bytes in the longest initial part that is valid.
def validLength (bytes : Bytes) : Nat :=
  Nat.findGreatest (fun n => Valid (bytes.take n)) bytes.length

theorem valid_take_validLength (bytes : Bytes) : Valid (bytes.take (validLength bytes)) :=
  Nat.findGreatest_spec (P := fun n => Valid (bytes.take n)) (Nat.zero_le _)
    (by rw [List.take_zero]; exact valid_nil)

theorem le_validLength {bytes part : Bytes} (start : part <+: bytes) (valid : Valid part) :
    part.length ≤ validLength bytes := by
  apply Nat.le_findGreatest start.length_le
  rwa [← List.prefix_iff_eq_take.mp start]

end KernelSymbols.Utf8
