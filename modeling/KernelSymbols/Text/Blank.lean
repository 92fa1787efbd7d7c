import KernelSymbols.Text.Basic

set_option autoImplicit false

namespace KernelSymbols.Text

def isBlank (c : Char) : Bool :=
  let n := c.toNat
  (0x09 ≤ n && n ≤ 0x0D) || n == 0x20 || n == 0x85 || n == 0xA0 || n == 0x1680 ||
    (0x2000 ≤ n && n ≤ 0x200A) || n == 0x2028 || n == 0x2029 || n == 0x202F || n == 0x205F ||
    n == 0x3000

def trimStart (text : Text) : Text := text.dropWhile isBlank

def trimEnd (text : Text) : Text := (trimStart text.reverse).reverse

def trim (text : Text) : Text := trimEnd (trimStart text)

theorem exists_trimStart (text : Text) :
    ∃ before : Text, before.all isBlank = true ∧ text = before ++ trimStart text :=
  ⟨text.takeWhile isBlank, by simp, by simp [trimStart]⟩

theorem exists_trimEnd (text : Text) :
    ∃ after : Text, after.all isBlank = true ∧ text = trimEnd text ++ after := by
  obtain ⟨before, blank, eq⟩ := exists_trimStart text.reverse
  refine ⟨before.reverse, by simpa using blank, ?_⟩
  have := congrArg List.reverse eq
  simpa [trimEnd] using this

theorem exists_trim (text : Text) :
    ∃ before after : Text, before.all isBlank = true ∧ after.all isBlank = true ∧
      text = before ++ trim text ++ after := by
  obtain ⟨before, hb, h₁⟩ := exists_trimStart text
  obtain ⟨after, ha, h₂⟩ := exists_trimEnd (trimStart text)
  exact ⟨before, after, hb, ha, by rw [trim, List.append_assoc, ← h₂, ← h₁]⟩

theorem trimStart_append {before : Text} (h : before.all isBlank = true) (text : Text) :
    trimStart (before ++ text) = trimStart text := by
  induction before with
  | nil => rfl
  | cons c rest ih =>
      simp only [List.all_cons, Bool.and_eq_true] at h
      simpa [trimStart, h.1] using ih h.2

theorem trimEnd_append {after : Text} (h : after.all isBlank = true) (text : Text) :
    trimEnd (text ++ after) = trimEnd text := by
  simp only [trimEnd, List.reverse_append]
  rw [trimStart_append (by simpa using h)]

theorem trimStart_eq_nil_iff {text : Text} : trimStart text = [] ↔ text.all isBlank = true := by
  induction text with
  | nil => simp [trimStart]
  | cons c rest ih =>
      by_cases hc : isBlank c = true
      · simp_all [trimStart]
      · simp [trimStart, hc]

theorem trim_padded {before after : Text} (hb : before.all isBlank = true)
    (ha : after.all isBlank = true) (text : Text) :
    trim (before ++ text ++ after) = trim text := by
  rw [List.append_assoc, trim, trimStart_append hb, trim]
  by_cases h : text.all isBlank = true
  · have whole : (text ++ after).all isBlank = true := by simp_all
    rw [trimStart_eq_nil_iff.mpr whole, trimStart_eq_nil_iff.mpr h]
  · obtain ⟨start, hs, eq⟩ := exists_trimStart text
    have nonempty : trimStart text ≠ [] := fun e => h (trimStart_eq_nil_iff.mp e)
    have keep : trimStart (text ++ after) = trimStart text ++ after := by
      conv => lhs; rw [eq, List.append_assoc, trimStart_append hs]
      cases ht : trimStart text with
      | nil => exact absurd ht nonempty
      | cons c rest =>
          have hc : isBlank c = false := by
            have := List.head?_dropWhile_not isBlank text
            rw [show text.dropWhile isBlank = c :: rest from ht] at this
            simpa using this
          simp [trimStart, hc]
    rw [keep, trimEnd_append ha]

theorem trim_trim (text : Text) : trim (trim text) = trim text := by
  obtain ⟨before, after, hb, ha, padded⟩ := exists_trim text
  calc trim (trim text) = trim (before ++ trim text ++ after) := (trim_padded hb ha _).symm
    _ = trim text := by rw [← padded]

def Trimmed (text : Text) : Prop :=
  (∀ c ∈ text.head?, isBlank c = false) ∧ ∀ c ∈ text.getLast?, isBlank c = false

theorem isBlank_head_trimStart {text : Text} {c : Char} (h : c ∈ (trimStart text).head?) :
    isBlank c = false := by
  have stopped := List.head?_dropWhile_not isBlank text
  rw [show text.dropWhile isBlank = trimStart text from rfl, Option.mem_def.mp h] at stopped
  simpa using stopped

theorem trimmed_trim (text : Text) : Trimmed (trim text) := by
  constructor
  · intro c first
    obtain ⟨after, -, eq⟩ := exists_trimEnd (trimStart text)
    have kept : c ∈ (trimEnd (trimStart text) ++ after).head? := by
      rw [List.head?_append, show (trimEnd (trimStart text)).head? = some c from first]
      rfl
    rw [← eq] at kept
    exact isBlank_head_trimStart kept
  · intro c last
    rw [trim, trimEnd, List.getLast?_reverse] at last
    exact isBlank_head_trimStart last

theorem trimStart_eq_self {text : Text} (h : ∀ c ∈ text.head?, isBlank c = false) :
    trimStart text = text := by
  cases text with
  | nil => rfl
  | cons c rest => simp [trimStart, h c rfl]

theorem trim_of_trimmed {text : Text} (h : Trimmed text) : trim text = text := by
  have reversed : trimStart text.reverse = text.reverse := by
    apply trimStart_eq_self
    rw [List.head?_reverse]
    exact h.2
  rw [trim, trimStart_eq_self h.1, trimEnd, reversed, List.reverse_reverse]

theorem trim_infix (text : Text) : trim text <:+: text := by
  obtain ⟨before, after, -, -, padded⟩ := exists_trim text
  exact ⟨before, after, padded.symm⟩

end KernelSymbols.Text
