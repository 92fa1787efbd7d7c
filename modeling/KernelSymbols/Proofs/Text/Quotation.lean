import KernelSymbols.Text.Quoted
import KernelSymbols.Text.Utf8

set_option autoImplicit false

namespace KernelSymbols.Text

def escapeLetters : List (Char × Char) :=
  [('"', '"'), ('\\', '\\'), ('t', '\t'), ('r', '\r'), ('n', '\n'), ('0', '\x00')]

def hasLetter (c : Char) : Bool := (escapeLetters.map Prod.snd).contains c

def isShown (c : Char) : Bool := isPrintable c && !isCombining c

inductive StandsFor : Text → Char → Prop
  | letter {letter c : Char} (named : (letter, c) ∈ escapeLetters) : StandsFor ['\\', letter] c
  | number {c : Char} (unnamed : hasLetter c = false) (hidden : isShown c = false) :
      StandsFor ('\\' :: 'u' :: '\x7b' :: hexadecimal c.toNat ++ ['\x7d']) c
  | itself {c : Char} (unnamed : hasLetter c = false) (shown : isShown c = true) :
      StandsFor [c] c

theorem escapeChar_of_mem {letter c : Char} (named : (letter, c) ∈ escapeLetters) :
    escapeChar c = ['\\', letter] := by
  have all : escapeLetters.all fun named => escapeChar named.2 = ['\\', named.1] := by decide
  exact of_decide_eq_true (List.all_eq_true.mp all _ named)

theorem lookup_escapeLetters {letter c : Char} :
    escapeLetters.lookup letter = some c ↔ (letter, c) ∈ escapeLetters := by
  constructor
  · intro found
    obtain ⟨before, after, split, -⟩ := List.lookup_eq_some_iff.mp found
    rw [split]
    exact List.mem_append_right before List.mem_cons_self
  · intro named
    have all : escapeLetters.all fun named => escapeLetters.lookup named.1 = some named.2 := by
      decide
    exact of_decide_eq_true (List.all_eq_true.mp all _ named)

theorem escapeChar_of_unnamed {c : Char} (unnamed : hasLetter c = false) :
    escapeChar c =
      if isShown c then [c] else '\\' :: 'u' :: '\x7b' :: hexadecimal c.toNat ++ ['\x7d'] := by
  have others : c ≠ '"' ∧ c ≠ '\\' ∧ c ≠ '\t' ∧ c ≠ '\r' ∧ c ≠ '\n' ∧ c ≠ '\x00' := by
    simpa [hasLetter, escapeLetters] using unnamed
  have escaped : (isCombining c || !isPrintable c) = !isShown c := by
    simp [isShown, Bool.or_comm]
  simp only [escapeChar, others, escaped, decide_false, Bool.or_self, Bool.false_eq_true, if_false]
  cases isShown c <;> rfl

theorem standsFor_iff {form : Text} {c : Char} : StandsFor form c ↔ form = escapeChar c := by
  constructor
  · intro stands
    cases stands with
    | letter named => exact (escapeChar_of_mem named).symm
    | number unnamed hidden => simp [escapeChar_of_unnamed unnamed, hidden]
    | itself unnamed shown => simp [escapeChar_of_unnamed unnamed, shown]
  · rintro rfl
    cases unnamed : hasLetter c with
    | true =>
        obtain ⟨⟨letter, _⟩, named, rfl⟩ := List.mem_map.mp (List.contains_iff_mem.mp unnamed)
        rw [escapeChar_of_mem named]
        exact .letter named
    | false =>
        rw [escapeChar_of_unnamed unnamed]
        split
        next shown => exact .itself unnamed shown
        next hidden => exact .number unnamed (by simpa using hidden)

theorem standsFor_escapeChar (c : Char) : StandsFor (escapeChar c) c := standsFor_iff.mpr rfl

def body (text : Text) : Text := text.flatMap escapeChar ++ ['"']

theorem StandsFor.append_body {form : Text} {c : Char} (stands : StandsFor form c) (text : Text) :
    form ++ body text = body (c :: text) := by
  rw [standsFor_iff.mp stands, body, body, List.flatMap_cons, List.append_assoc]

theorem hasNoControl_of_digits {text : Text} (digits : ∀ c ∈ text, isHexDigit c = true) :
    hasNoControl text = true := by
  apply hasNoControl_iff.mpr
  intro c member
  have digit := isHexDigit_iff.mp (digits c member)
  simp only [isControl, Bool.or_eq_false_iff, Bool.and_eq_false_iff, decide_eq_false_iff_not]
  omega

theorem hasNoControl_decimal (n : Nat) : hasNoControl (decimal n) = true := by
  apply hasNoControl_of_digits
  intro c member
  have digit : c.isDigit = true := Nat.isDigit_of_mem_toDigits (by decide) (by decide) member
  simp [isHexDigit, digit]

theorem StandsFor.hasNoControl {form : Text} {c : Char} (stands : StandsFor form c) :
    Text.hasNoControl form = true := by
  cases stands with
  | letter named =>
      have all : escapeLetters.all fun named => Text.hasNoControl ['\\', named.1] := by decide
      exact List.all_eq_true.mp all _ named
  | number unnamed hidden =>
      have opening : Text.hasNoControl ['\\', 'u', '\x7b'] = true := by decide
      have digits : Text.hasNoControl (hexadecimal c.toNat) = true :=
        hasNoControl_of_digits fun _ => isHexDigit_of_mem_hexadecimal c.toNat
      have closing : Text.hasNoControl ['\x7d'] = true := by decide
      have opened : Text.hasNoControl (['\\', 'u', '\x7b'] ++ hexadecimal c.toNat) = true := by
        rw [hasNoControl_append, opening, digits]
        rfl
      rw [hasNoControl_append, closing, Bool.and_true]
      exact opened
  | itself unnamed shown =>
      have printable : isPrintable c = true := (Bool.and_eq_true_iff.mp shown).1
      have visible : isControl c = false := by
        apply Bool.eq_false_iff.mpr
        intro control
        rw [isPrintable_eq_false_of_isControl control] at printable
        cases printable
      simp [Text.hasNoControl, visible]

theorem hasNoControl_body (text : Text) : hasNoControl (body text) = true := by
  induction text with
  | nil => decide
  | cons c rest ih =>
      have stands := standsFor_escapeChar c
      rw [← stands.append_body, hasNoControl_append, stands.hasNoControl, ih]
      rfl

theorem hasNoControl_quote (text : Text) : hasNoControl (quote text) = true := by
  have opening : hasNoControl ['"'] = true := by decide
  have split : quote text = ['"'] ++ body text := rfl
  rw [split, hasNoControl_append, opening, hasNoControl_body]
  rfl

def digit? (c : Char) : Option Nat := (List.range 16).find? fun d => d.digitChar = c

theorem digit?_eq_some_iff {c : Char} {d : Nat} : digit? c = some d ↔ d < 16 ∧ d.digitChar = c := by
  constructor
  · intro found
    have spelled := List.find?_some found
    exact ⟨List.mem_range.mp (List.mem_of_find?_eq_some found), of_decide_eq_true spelled⟩
  · intro spelled
    obtain ⟨small, rfl⟩ := spelled
    have all : ∀ d : Fin 16, digit? d.val.digitChar = some d.val := by decide
    exact all ⟨d, small⟩

-- The digits of a number as far as they are read: none at first, and zero is no first digit.
def digitsOf (n : Nat) : Text := if n = 0 then [] else hexadecimal n

theorem digitsOf_append {n d : Nat} (small : d < 16) (significant : ¬ (n = 0 ∧ d = 0)) :
    digitsOf n ++ [d.digitChar] = digitsOf (16 * n + d) := by
  have nonzero : 16 * n + d ≠ 0 := by omega
  rw [digitsOf, digitsOf, if_neg nonzero]
  split
  next first =>
    rw [first, Nat.mul_zero, Nat.zero_add, List.nil_append, hexadecimal,
      Nat.toDigits_of_lt_base small]
  next further =>
    rw [hexadecimal, hexadecimal, ← Nat.toDigits_of_lt_base small,
      Nat.toDigits_append_toDigits (by decide) (Nat.pos_of_ne_zero further) small]

theorem digitsOf_toNat {c : Char} (unnamed : hasLetter c = false) :
    digitsOf c.toNat = hexadecimal c.toNat := by
  apply if_neg
  intro zero
  obtain rfl : c = '\x00' := Char.toNat_inj.mp zero
  exact absurd unnamed (by decide)

inductive Quotation
  | between
  | backslash
  | brace
  | number (n : Nat)

def Quotation.begun : Quotation → Text
  | .between => []
  | .backslash => ['\\']
  | .brace => ['\\', 'u']
  | .number n => '\\' :: 'u' :: '\x7b' :: digitsOf n

def Quotation.read? : Quotation → Text → Option Text
  | _, [] => none
  | .between, c :: rest =>
      if c = '"' then if rest = [] then some [] else none
      else if c = '\\' then read? .backslash rest
      else if isShown c && !hasLetter c then (read? .between rest).map (c :: ·)
      else none
  | .backslash, c :: rest =>
      if c = 'u' then read? .brace rest
      else (escapeLetters.lookup c).bind fun named => (read? .between rest).map (named :: ·)
  | .brace, c :: rest => if c = '\x7b' then read? (.number 0) rest else none
  | .number n, c :: rest =>
      if c = '\x7d' then
        ((Utf8.scalar? 0 n).filter fun named => !isShown named && !hasLetter named).bind
          fun named => (read? .between rest).map (named :: ·)
      else (digit? c).bind fun d =>
        if n = 0 ∧ d = 0 then none else read? (.number (16 * n + d)) rest

def unquote? : Text → Option Text
  | '"' :: rest => Quotation.between.read? rest
  | _ => none

namespace Quotation

theorem eq_body_of_read? {quotation : Quotation} {text value : Text}
    (accepted : quotation.read? text = some value) : quotation.begun ++ text = body value := by
  -- A form that was begun is put back before the rest, so that each step reads on in one form.
  fun_induction read? quotation text generalizing value with
  | case1 | case3 | case6 | case10 => cases accepted
  | case2 =>
      cases accepted
      rfl
  | case4 rest _ ih => exact ih accepted
  | case5 c rest _ _ plain ih =>
      obtain ⟨after, further, rfl⟩ := Option.map_eq_some_iff.mp accepted
      simp only [Bool.and_eq_true, Bool.not_eq_true'] at plain
      rw [← StandsFor.append_body (.itself plain.2 plain.1), ← ih further]
      rfl
  | case7 rest ih => exact ih accepted
  | case8 letter rest _ ih =>
      obtain ⟨c, named, completed⟩ := Option.bind_eq_some_iff.mp accepted
      obtain ⟨after, further, rfl⟩ := Option.map_eq_some_iff.mp completed
      rw [← StandsFor.append_body (.letter (lookup_escapeLetters.mp named)), ← ih further]
      rfl
  | case9 rest ih => exact ih accepted
  | case11 n rest ih =>
      obtain ⟨c, numbered, completed⟩ := Option.bind_eq_some_iff.mp accepted
      obtain ⟨after, further, rfl⟩ := Option.map_eq_some_iff.mp completed
      obtain ⟨scalar, hidden⟩ := Option.filter_eq_some_iff.mp numbered
      obtain ⟨-, rfl⟩ := Utf8.scalar?_eq_some_iff.mp scalar
      simp only [Bool.and_eq_true, Bool.not_eq_true'] at hidden
      rw [← StandsFor.append_body (.number hidden.2 hidden.1), ← ih further,
        ← digitsOf_toNat hidden.2, List.append_assoc]
      rfl
  | case12 n c rest _ ih =>
      obtain ⟨d, digit, continued⟩ := Option.bind_eq_some_iff.mp accepted
      obtain ⟨small, rfl⟩ := digit?_eq_some_iff.mp digit
      split at continued
      next => cases continued
      next significant =>
        rw [← ih d continued, begun, begun, ← digitsOf_append small significant]
        simp only [List.cons_append, List.append_assoc, List.nil_append]

theorem read?_digitsOf (n : Nat) (rest : Text) :
    (number 0).read? (digitsOf n ++ rest) = (number n).read? rest := by
  -- The induction is on the number without its last digit, which comes first in what is left.
  induction n using Nat.strongRecOn generalizing rest with
  | _ n ih =>
      by_cases zero : n = 0
      · rw [zero]
        rfl
      · have small : n % 16 < 16 := Nat.mod_lt n (by decide)
        have significant : ¬ (n / 16 = 0 ∧ n % 16 = 0) := by omega
        have whole : 16 * (n / 16) + n % 16 = n := Nat.div_add_mod n 16
        have digits := digitsOf_append small significant
        rw [whole] at digits
        have digit := digit?_eq_some_iff.mpr ⟨small, rfl⟩
        have other : (n % 16).digitChar ≠ '\x7d' := Nat.digitChar_ne _ (by decide)
        rw [← digits, List.append_assoc, ih (n / 16) (by omega), List.singleton_append, read?,
          if_neg other, digit, Option.bind_some, if_neg significant, whole]

theorem read?_append {form : Text} {c : Char} (stands : StandsFor form c) (rest : Text) :
    between.read? (form ++ rest) = (between.read? rest).map (c :: ·) := by
  cases stands with
  | @letter letter _ named =>
      have found := lookup_escapeLetters.mpr named
      have other : letter ≠ 'u' := by
        rintro rfl
        cases found
      simp [read?, other, found]
  | number unnamed hidden =>
      have scalar := Utf8.scalar?_eq_some_iff.mpr ⟨Nat.zero_le c.toNat, rfl⟩
      have named : (Utf8.scalar? 0 c.toNat).filter
          (fun named => !isShown named && !hasLetter named) = some c := by
        rw [scalar, Option.filter_some, hidden, unnamed]
        rfl
      have spelled : '\\' :: 'u' :: '\x7b' :: hexadecimal c.toNat ++ ['\x7d'] ++ rest =
          '\\' :: 'u' :: '\x7b' :: (digitsOf c.toNat ++ '\x7d' :: rest) := by
        rw [digitsOf_toNat unnamed]
        simp only [List.cons_append, List.append_assoc, List.nil_append]
      calc
        between.read? ('\\' :: 'u' :: '\x7b' :: hexadecimal c.toNat ++ ['\x7d'] ++ rest)
        _ = (number 0).read? (digitsOf c.toNat ++ '\x7d' :: rest) := by rw [spelled]; rfl
        _ = (number c.toNat).read? ('\x7d' :: rest) := read?_digitsOf c.toNat _
        _ = (between.read? rest).map (c :: ·) := by rw [read?, if_pos rfl, named, Option.bind_some]
  | itself unnamed shown =>
      have unquoted : c ≠ '"' := by
        rintro rfl
        exact absurd unnamed (by decide)
      have other : c ≠ '\\' := by
        rintro rfl
        exact absurd unnamed (by decide)
      simp [read?, unquoted, other, unnamed, shown]

theorem read?_body (text : Text) : between.read? (body text) = some text := by
  induction text with
  | nil => rfl
  | cons c rest ih =>
      have stands := standsFor_escapeChar c
      rw [← stands.append_body, read?_append stands, ih, Option.map_some]

end Quotation

theorem unquote?_eq_some_iff {quoted text : Text} :
    unquote? quoted = some text ↔ quoted = quote text := by
  constructor
  · intro accepted
    unfold unquote? at accepted
    split at accepted
    next rest => exact congrArg ('"' :: ·) (Quotation.eq_body_of_read? accepted)
    next => cases accepted
  · rintro rfl
    exact Quotation.read?_body text

end KernelSymbols.Text
