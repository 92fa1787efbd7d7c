import KernelSymbols.Text.Basic

set_option autoImplicit false

namespace KernelSymbols.Utf8

def encodeChar (c : Char) : Bytes :=
  if c.toNat < 0x80 then [UInt8.ofNat c.toNat]
  else if c.toNat < 0x800 then
    [UInt8.ofNat (0xC0 + c.toNat / 0x40), UInt8.ofNat (0x80 + c.toNat % 0x40)]
  else if c.toNat < 0x10000 then
    [UInt8.ofNat (0xE0 + c.toNat / 0x1000), UInt8.ofNat (0x80 + c.toNat / 0x40 % 0x40),
      UInt8.ofNat (0x80 + c.toNat % 0x40)]
  else
    [UInt8.ofNat (0xF0 + c.toNat / 0x40000), UInt8.ofNat (0x80 + c.toNat / 0x1000 % 0x40),
      UInt8.ofNat (0x80 + c.toNat / 0x40 % 0x40), UInt8.ofNat (0x80 + c.toNat % 0x40)]

def encode (text : Text) : Bytes := text.flatMap encodeChar

@[simp] theorem encode_nil : encode [] = [] := rfl

@[simp] theorem encode_cons (c : Char) (text : Text) :
    encode (c :: text) = encodeChar c ++ encode text := rfl

@[simp] theorem encode_append (left right : Text) :
    encode (left ++ right) = encode left ++ encode right := by
  simp [encode]

theorem encode_flatten (texts : List Text) :
    encode texts.flatten = (texts.map encode).flatten := by
  induction texts with
  | nil => rfl
  | cons first rest ih =>
      rw [List.flatten_cons, encode_append, ih, List.map_cons, List.flatten_cons]

/-- The six low bits of a byte between 0x80 and 0xBF. -/
def tail? (b : UInt8) : Option Nat :=
  if 0x80 ≤ b.toNat ∧ b.toNat < 0xC0 then some (b.toNat - 0x80) else none

/-- The character with this number, unless a shorter form would hold it: those of `least` and above
need theirs. -/
def scalar? (least n : Nat) : Option Char :=
  if h : least ≤ n ∧ n.isValidChar then some (Char.ofNatAux n h.2) else none

def pair? (a b : UInt8) : Option Char := do
  scalar? 0x80 ((a.toNat - 0xC0) * 0x40 + (← tail? b))

def triple? (a b c : UInt8) : Option Char := do
  scalar? 0x800 ((a.toNat - 0xE0) * 0x1000 + (← tail? b) * 0x40 + (← tail? c))

def quadruple? (a b c d : UInt8) : Option Char := do
  scalar? 0x10000
    ((a.toNat - 0xF0) * 0x40000 + (← tail? b) * 0x1000 + (← tail? c) * 0x40 + (← tail? d))

def decode : Bytes → Option Text
  | [] => some []
  | a :: rest =>
      if a.toNat < 0x80 then (decode rest).map (Char.ofUInt8 a :: ·)
      else if a.toNat < 0xC0 then none
      else if a.toNat < 0xE0 then
        match rest with
        | b :: rest =>
            match pair? a b with
            | some char => (decode rest).map (char :: ·)
            | none => none
        | _ => none
      else if a.toNat < 0xF0 then
        match rest with
        | b :: c :: rest =>
            match triple? a b c with
            | some char => (decode rest).map (char :: ·)
            | none => none
        | _ => none
      else
        match rest with
        | b :: c :: d :: rest =>
            match quadruple? a b c d with
            | some char => (decode rest).map (char :: ·)
            | none => none
        | _ => none

theorem scalar?_eq_some_iff {least n : Nat} {c : Char} :
    scalar? least n = some c ↔ least ≤ n ∧ c.toNat = n := by
  rw [scalar?]
  by_cases h : least ≤ n ∧ n.isValidChar
  · rw [dif_pos h, Option.some.injEq]
    constructor
    · rintro rfl
      exact ⟨h.1, rfl⟩
    · intro numbered
      exact Char.ext (UInt32.toNat_inj.mp numbered.2.symm)
  · rw [dif_neg h]
    simp only [reduceCtorEq, false_iff, not_and]
    rintro least rfl
    exact h ⟨least, c.valid⟩

theorem tail?_eq_some_iff {b : UInt8} {n : Nat} :
    tail? b = some n ↔ n < 0x40 ∧ b.toNat = 0x80 + n := by
  rw [tail?]
  split
  · simp only [Option.some.injEq]; omega
  · simp only [reduceCtorEq, false_iff]; omega

theorem toNat_lt (c : Char) : c.toNat < 0x110000 := by
  have : c.toNat.isValidChar := c.valid
  simp only [Nat.isValidChar] at this
  omega

theorem pair?_eq_some_iff {a b : UInt8} {c : Char} (ha : 0xC0 ≤ a.toNat ∧ a.toNat < 0xE0) :
    pair? a b = some c ↔ 0x80 ≤ c.toNat ∧ c.toNat < 0x800 ∧ encodeChar c = [a, b] := by
  simp only [pair?, bind, Option.bind_eq_some_iff, tail?_eq_some_iff, scalar?_eq_some_iff]
  constructor
  · intro read
    obtain ⟨n, ⟨hn, hb⟩, hle, hc⟩ := read
    refine ⟨by omega, by omega, ?_⟩
    simp only [encodeChar, show ¬ c.toNat < 0x80 by omega, show c.toNat < 0x800 by omega, if_true,
      if_false, List.cons.injEq, and_true, ← UInt8.toNat_inj, UInt8.toNat_ofNat']
    omega
  · intro spelled
    obtain ⟨hle, hlt, he⟩ := spelled
    simp only [encodeChar, show ¬ c.toNat < 0x80 by omega, hlt, if_true, if_false,
      List.cons.injEq, and_true, ← UInt8.toNat_inj, UInt8.toNat_ofNat'] at he
    exact ⟨c.toNat % 0x40, by omega⟩

theorem triple?_eq_some_iff {a b c : UInt8} {char : Char}
    (ha : 0xE0 ≤ a.toNat ∧ a.toNat < 0xF0) :
    triple? a b c = some char ↔
      0x800 ≤ char.toNat ∧ char.toNat < 0x10000 ∧ encodeChar char = [a, b, c] := by
  simp only [triple?, bind, Option.bind_eq_some_iff, tail?_eq_some_iff, scalar?_eq_some_iff]
  constructor
  · intro read
    obtain ⟨m, ⟨hm, hb⟩, n, ⟨hn, hc⟩, hle, h⟩ := read
    refine ⟨by omega, by omega, ?_⟩
    simp only [encodeChar, show ¬ char.toNat < 0x80 by omega, show ¬ char.toNat < 0x800 by omega,
      show char.toNat < 0x10000 by omega, if_true, if_false, List.cons.injEq, and_true,
      ← UInt8.toNat_inj, UInt8.toNat_ofNat']
    omega
  · intro spelled
    obtain ⟨hle, hlt, he⟩ := spelled
    simp only [encodeChar, show ¬ char.toNat < 0x80 by omega, show ¬ char.toNat < 0x800 by omega,
      hlt, if_true, if_false, List.cons.injEq, and_true, ← UInt8.toNat_inj,
      UInt8.toNat_ofNat'] at he
    exact ⟨char.toNat / 0x40 % 0x40, by omega, char.toNat % 0x40, by omega⟩

theorem quadruple?_eq_some_iff {a b c d : UInt8} {char : Char} (ha : 0xF0 ≤ a.toNat) :
    quadruple? a b c d = some char ↔ 0x10000 ≤ char.toNat ∧ encodeChar char = [a, b, c, d] := by
  have bound := toNat_lt char
  simp only [quadruple?, bind, Option.bind_eq_some_iff, tail?_eq_some_iff, scalar?_eq_some_iff]
  constructor
  · intro read
    obtain ⟨l, ⟨hl, hb⟩, m, ⟨hm, hc⟩, n, ⟨hn, hd⟩, hle, h⟩ := read
    refine ⟨by omega, ?_⟩
    simp only [encodeChar, show ¬ char.toNat < 0x80 by omega, show ¬ char.toNat < 0x800 by omega,
      show ¬ char.toNat < 0x10000 by omega, if_false, List.cons.injEq, and_true,
      ← UInt8.toNat_inj, UInt8.toNat_ofNat']
    omega
  · intro spelled
    obtain ⟨hle, he⟩ := spelled
    simp only [encodeChar, show ¬ char.toNat < 0x80 by omega, show ¬ char.toNat < 0x800 by omega,
      show ¬ char.toNat < 0x10000 by omega, if_false, List.cons.injEq, and_true,
      ← UInt8.toNat_inj, UInt8.toNat_ofNat'] at he
    exact ⟨char.toNat / 0x1000 % 0x40, by omega, char.toNat / 0x40 % 0x40, by omega,
      char.toNat % 0x40, by omega⟩

theorem encodeChar_of_lt {c : Char} (h : c.toNat < 0x80) :
    encodeChar c = [UInt8.ofNat c.toNat] := by
  simp [encodeChar, h]

theorem toNat_ofUInt8 (a : UInt8) : (Char.ofUInt8 a).toNat = a.toNat := UInt8.toNat_toUInt32 a

theorem decode_cons_of_lt {a : UInt8} (h : a.toNat < 0x80) (rest : Bytes) :
    decode (a :: rest) = (decode rest).map (Char.ofUInt8 a :: ·) := by
  rw [decode.eq_def]
  simp only [h, if_true]

theorem decode_pair {a b : UInt8} (h : 0xC0 ≤ a.toNat ∧ a.toNat < 0xE0) (rest : Bytes) :
    decode (a :: b :: rest) = (pair? a b).bind fun c => (decode rest).map (c :: ·) := by
  rw [decode.eq_def]
  simp only [show ¬ a.toNat < 0x80 by omega, show ¬ a.toNat < 0xC0 by omega, h.2, if_true, if_false]
  cases pair? a b <;> rfl

theorem decode_triple {a b c : UInt8} (h : 0xE0 ≤ a.toNat ∧ a.toNat < 0xF0) (rest : Bytes) :
    decode (a :: b :: c :: rest) =
      (triple? a b c).bind fun char => (decode rest).map (char :: ·) := by
  rw [decode.eq_def]
  simp only [show ¬ a.toNat < 0x80 by omega, show ¬ a.toNat < 0xC0 by omega,
    show ¬ a.toNat < 0xE0 by omega, h.2, if_true, if_false]
  cases triple? a b c <;> rfl

theorem decode_quadruple {a b c d : UInt8} (h : 0xF0 ≤ a.toNat) (rest : Bytes) :
    decode (a :: b :: c :: d :: rest) =
      (quadruple? a b c d).bind fun char => (decode rest).map (char :: ·) := by
  rw [decode.eq_def]
  simp only [show ¬ a.toNat < 0x80 by omega, show ¬ a.toNat < 0xC0 by omega,
    show ¬ a.toNat < 0xE0 by omega, show ¬ a.toNat < 0xF0 by omega, if_false]
  cases quadruple? a b c d <;> rfl

theorem decode_encodeChar_append (char : Char) (rest : Bytes) :
    decode (encodeChar char ++ rest) = (decode rest).map (char :: ·) := by
  have bound := toNat_lt char
  by_cases h₁ : char.toNat < 0x80
  · have small : (UInt8.ofNat char.toNat).toNat = char.toNat := by
      rw [UInt8.toNat_ofNat']; omega
    have same : Char.ofUInt8 (UInt8.ofNat char.toNat) = char := by
      apply Char.ext; apply UInt32.toNat_inj.mp
      exact (toNat_ofUInt8 _).trans small
    rw [encodeChar_of_lt h₁, List.singleton_append, decode_cons_of_lt (by omega), same]
  · by_cases h₂ : char.toNat < 0x800
    · obtain ⟨a, b, he, ha⟩ :
          ∃ a b, encodeChar char = [a, b] ∧ 0xC0 ≤ a.toNat ∧ a.toNat < 0xE0 := by
        refine ⟨_, _, by simp only [encodeChar, h₁, h₂, if_true, if_false]; rfl, ?_⟩
        rw [UInt8.toNat_ofNat']; omega
      rw [he]
      exact (decode_pair ha rest).trans
        (by rw [(pair?_eq_some_iff ha).mpr ⟨by omega, h₂, he⟩]; rfl)
    · by_cases h₃ : char.toNat < 0x10000
      · obtain ⟨a, b, c, he, ha⟩ :
            ∃ a b c, encodeChar char = [a, b, c] ∧ 0xE0 ≤ a.toNat ∧ a.toNat < 0xF0 := by
          refine ⟨_, _, _, by simp only [encodeChar, h₁, h₂, h₃, if_true, if_false]; rfl, ?_⟩
          rw [UInt8.toNat_ofNat']; omega
        rw [he]
        exact (decode_triple ha rest).trans
          (by rw [(triple?_eq_some_iff ha).mpr ⟨by omega, h₃, he⟩]; rfl)
      · obtain ⟨a, b, c, d, he, ha⟩ :
            ∃ a b c d, encodeChar char = [a, b, c, d] ∧ 0xF0 ≤ a.toNat := by
          refine ⟨_, _, _, _, by simp only [encodeChar, h₁, h₂, h₃, if_false]; rfl, ?_⟩
          rw [UInt8.toNat_ofNat']; omega
        rw [he]
        exact (decode_quadruple ha rest).trans
          (by rw [(quadruple?_eq_some_iff ha).mpr ⟨by omega, he⟩]; rfl)

theorem decode_encode (text : Text) : decode (encode text) = some text := by
  induction text with
  | nil => rfl
  | cons c rest ih => simp [decode_encodeChar_append, ih]

theorem eq_encode_of_decode {bytes : Bytes} {text : Text} (h : decode bytes = some text) :
    bytes = encode text := by
  fun_induction decode bytes generalizing text with
  | case1 => cases h; rfl
  | case2 a rest ha ih =>
      obtain ⟨after, decoded, rfl⟩ := Option.map_eq_some_iff.mp h
      have small : (Char.ofUInt8 a).toNat < 0x80 := by rw [toNat_ofUInt8]; exact ha
      rw [encode_cons, encodeChar_of_lt small, toNat_ofUInt8, ← ih decoded]
      simp
  | case4 a _ hc he b rest char hp ih =>
      obtain ⟨after, decoded, rfl⟩ := Option.map_eq_some_iff.mp h
      rw [encode_cons, ((pair?_eq_some_iff (by omega)).mp hp).2.2, ← ih decoded]
      rfl
  | case7 a _ hc he hf b c rest char hp ih =>
      obtain ⟨after, decoded, rfl⟩ := Option.map_eq_some_iff.mp h
      rw [encode_cons, ((triple?_eq_some_iff (by omega)).mp hp).2.2, ← ih decoded]
      rfl
  | case10 a _ hc he hf b c d rest char hp ih =>
      obtain ⟨after, decoded, rfl⟩ := Option.map_eq_some_iff.mp h
      rw [encode_cons, ((quadruple?_eq_some_iff (by omega)).mp hp).2, ← ih decoded]
      rfl
  | _ => cases h

theorem decode_eq_some_iff {bytes : Bytes} {text : Text} :
    decode bytes = some text ↔ bytes = encode text :=
  ⟨eq_encode_of_decode, fun h => h ▸ decode_encode text⟩

theorem mem_encodeChar_iff {b : UInt8} (small : b.toNat < 0x80) {c : Char} :
    b ∈ encodeChar c ↔ c = Char.ofUInt8 b := by
  have numbered : c = Char.ofUInt8 b ↔ c.toNat = b.toNat := by
    rw [← toNat_ofUInt8, Char.toNat_inj]
  rw [numbered]
  unfold encodeChar
  split
  · simp only [List.mem_singleton, ← UInt8.toNat_inj, UInt8.toNat_ofNat']
    omega
  · have bound := toNat_lt c
    repeat' split
    all_goals
      simp only [List.mem_cons, List.not_mem_nil, or_false, ← UInt8.toNat_inj, UInt8.toNat_ofNat']
      omega

theorem mem_encode_iff {b : UInt8} (small : b.toNat < 0x80) {text : Text} :
    b ∈ encode text ↔ Char.ofUInt8 b ∈ text := by
  simp [encode, mem_encodeChar_iff small]

end KernelSymbols.Utf8
