import KernelSymbols.Text.Basic

set_option autoImplicit false

namespace KernelSymbols.Text

def isHexDigit (c : Char) : Bool :=
  c.isDigit || ('a' ≤ c && c ≤ 'f') || ('A' ≤ c && c ≤ 'F')

theorem isHexDigit_iff {c : Char} :
    isHexDigit c = true ↔ (48 ≤ c.toNat ∧ c.toNat ≤ 57) ∨ (97 ≤ c.toNat ∧ c.toNat ≤ 102) ∨
      (65 ≤ c.toNat ∧ c.toNat ≤ 70) := by
  have same : c.val.toNat = c.toNat := rfl
  simp only [isHexDigit, Char.isDigit, Bool.or_eq_true, Bool.and_eq_true, decide_eq_true_eq,
    Char.le_def, UInt32.le_iff_toNat_le, ge_iff_le, same]
  simp
  omega

def isHexadecimal (text : Text) : Bool := !text.isEmpty && text.all isHexDigit

theorem isHexadecimal_iff (text : Text) :
    isHexadecimal text = true ↔ text ≠ [] ∧ ∀ c ∈ text, isHexDigit c = true := by
  simp [isHexadecimal]

theorem not_mem_of_isHexadecimal {text : Text} (digits : isHexadecimal text = true) {c : Char}
    (other : isHexDigit c = false) : c ∉ text := by
  intro member
  have digit := ((isHexadecimal_iff text).mp digits).2 c member
  simp [digit] at other

def hexadecimal (n : Nat) : Text := Nat.toDigits 16 n

theorem isHexDigit_digitChar {n : Nat} (h : n < 16) : isHexDigit n.digitChar = true := by
  have all : ∀ d : Fin 16, isHexDigit d.val.digitChar = true := by decide
  exact all ⟨n, h⟩

theorem isHexDigit_of_mem_hexadecimal (n : Nat) {c : Char} (h : c ∈ hexadecimal n) :
    isHexDigit c = true := by
  induction n using Nat.strongRecOn with
  | _ n ih =>
      rw [hexadecimal, Nat.toDigits_eq_if (by decide)] at h
      split at h
      next small =>
        rw [List.mem_singleton] at h
        exact h ▸ isHexDigit_digitChar small
      next large =>
        rcases List.mem_append.mp h with h | h
        · exact ih (n / 16) (by omega) h
        · rw [List.mem_singleton] at h
          exact h ▸ isHexDigit_digitChar (Nat.mod_lt n (by decide))

end KernelSymbols.Text
