import KernelSymbols.Text.Basic

set_option autoImplicit false

namespace KernelSymbols.CSource

inductive Quote
  | single
  | double
deriving DecidableEq, Repr

def Quote.mark : Quote → Char
  | .single => '\x27'
  | .double => '"'

def Quote.Holds (quote : Quote) (text : Text) : Prop :=
  ∀ c ∈ text, c ≠ '\n' ∧ c ≠ '\\' ∧ c ≠ quote.mark

inductive Token
  | directive (line : Text)
  | name (spelling : Text)
  | number (spelling : Text)
  | literal (quote : Quote) (content : Text)
  | mark (c : Char)
deriving DecidableEq, Repr

inductive Mode
  -- Here `first` says that the line has had nothing but blanks so far.
  | between (first : Bool)
  | directive (line : Text)
  | name (spelling : Text)
  | number (spelling : Text)
  | literal (quote : Quote) (content : Text) (escaped : Bool)
  | slash (first : Bool)
  | lineComment
  | blockComment (first star : Bool)
deriving DecidableEq, Repr

def isBlank (c : Char) : Bool := c = ' ' || c = '\t' || c = '\x0b' || c = '\x0c' || c = '\r'

def isWordChar (c : Char) : Bool := c.isAlphanum || c = '_'

-- A sign belongs to a number only directly after the letter of an exponent.
def continuesNumber (spelling : Text) (c : Char) : Bool :=
  isWordChar c || c = '.' ||
    (c = '+' || c = '-') && spelling.getLast?.any fun last => "eEpP".toList.contains last

namespace Mode

def begun (first : Bool) (c : Char) : Mode × List Token :=
  if c = '\n' then (.between true, [])
  else if isBlank c then (.between first, [])
  else if c = '#' && first then (.directive [c], [])
  else if c = '\x27' then (.literal .single [] false, [])
  else if c = '"' then (.literal .double [] false, [])
  else if c = '/' then (.slash first, [])
  else if c.isDigit then (.number [c], [])
  else if isWordChar c then (.name [c], [])
  else (.between false, [.mark c])

def ended (token : Token) (c : Char) : Mode × List Token :=
  ((begun false c).1, token :: (begun false c).2)

def step : Mode → Char → Option (Mode × List Token)
  | .between first, c => some (begun first c)
  | .directive line, c =>
      if c = '\n' then some (.between true, [.directive line])
      else some (.directive (line ++ [c]), [])
  | .name spelling, c =>
      if isWordChar c then some (.name (spelling ++ [c]), []) else some (ended (.name spelling) c)
  | .number spelling, c =>
      if continuesNumber spelling c then some (.number (spelling ++ [c]), [])
      else some (ended (.number spelling) c)
  | .literal quote content escaped, c =>
      if c = '\n' then none
      else if escaped then some (.literal quote (content ++ [c]) false, [])
      else if c = quote.mark then some (.between false, [.literal quote content])
      else some (.literal quote (content ++ [c]) (c = '\\'), [])
  | .slash first, c =>
      if c = '/' then some (.lineComment, [])
      else if c = '*' then some (.blockComment first false, [])
      else some (ended (.mark '/') c)
  | .lineComment, c => if c = '\n' then some (.between true, []) else some (.lineComment, [])
  | .blockComment first star, c =>
      if star && c = '/' then some (.between first, [])
      else some (.blockComment first (c = '*'), [])

def finish : Mode → Option (List Token)
  | .between _ => some []
  | .directive line => some [.directive line]
  | .name spelling => some [.name spelling]
  | .number spelling => some [.number spelling]
  | .literal .. => none
  | .slash _ => some [.mark '/']
  | .lineComment => some []
  | .blockComment .. => none

def read : Mode → Text → Option (Mode × List Token)
  | mode, [] => some (mode, [])
  | mode, c :: rest => do
      let (next, tokens) ← mode.step c
      let (last, others) ← next.read rest
      return (last, tokens ++ others)

end Mode

def scan (text : Text) : Option (List Token) := do
  let (last, tokens) ← (Mode.between true).read text
  let others ← last.finish
  return tokens ++ others

-- The brace stands in a literal, as does the start of a comment; the last quote ends neither.
example : scan "a'\x7b\"/*'\n".toList =
    some [.name ['a'], .literal .single "\x7b\"/*".toList] := by decide

example : scan "\"a\\\"b'".toList = none := by decide

namespace Mode

def Reads (mode : Mode) (text : Text) (tokens : List Token) (after : Mode) : Prop :=
  mode.read text = some (after, tokens)

theorem Reads.refl (mode : Mode) : mode.Reads [] [] mode := rfl

theorem Reads.cons {mode next last : Mode} {c : Char} {text : Text} {tokens others : List Token}
    (stepped : mode.step c = some (next, tokens)) (rest : next.Reads text others last) :
    mode.Reads (c :: text) (tokens ++ others) last := by
  rw [Reads] at rest
  simp [Reads, read, stepped, rest]

theorem Reads.append {mode middle last : Mode} {left right : Text} {tokens others : List Token}
    (first : mode.Reads left tokens middle) (second : middle.Reads right others last) :
    mode.Reads (left ++ right) (tokens ++ others) last := by
  induction left generalizing mode tokens with
  | nil =>
      cases first
      exact second
  | cons c rest ih =>
      rw [Reads, read] at first
      cases stepped : mode.step c with
      | none => simp [stepped] at first
      | some result =>
          obtain ⟨next, begun⟩ := result
          cases remaining : next.read rest with
          | none => simp [stepped, remaining] at first
          | some outcome =>
              obtain ⟨final, following⟩ := outcome
              simp only [stepped, remaining, Option.bind_eq_bind, Option.bind_some, Option.pure_def,
                Option.some.injEq, Prod.mk.injEq] at first
              obtain ⟨rfl, rfl⟩ := first
              rw [List.append_assoc]
              exact Reads.cons stepped (ih remaining)

theorem Reads.flatMap {α : Type} {mode : Mode} {parts : List α} {text : α → Text}
    {tokens : α → List Token} (each : ∀ part ∈ parts, mode.Reads (text part) (tokens part) mode) :
    mode.Reads (parts.flatMap text) (parts.flatMap tokens) mode := by
  induction parts with
  | nil => exact Reads.refl mode
  | cons part rest ih =>
      obtain ⟨first, others⟩ := List.forall_mem_cons.mp each
      exact first.append (ih others)

theorem scan_of_reads {text : Text} {tokens : List Token} {first : Bool}
    (reads : (between true).Reads text tokens (between first)) : scan text = some tokens := by
  rw [Reads] at reads
  simp [scan, reads, finish]

theorem begun_of_isDigit {c : Char} (digit : c.isDigit = true) (first : Bool) :
    begun first c = (.number [c], []) := by
  have other {d : Char} (h : d.isDigit = false) : c ≠ d := by
    rintro rfl
    simp [digit] at h
  have mark : c ≠ '\n' ∧ c ≠ '#' ∧ c ≠ '\x27' ∧ c ≠ '"' ∧ c ≠ '/' := by
    refine ⟨?_, ?_, ?_, ?_, ?_⟩ <;> exact other (by decide)
  have solid : isBlank c = false := by
    unfold isBlank
    simp only [Bool.or_eq_false_iff, decide_eq_false_iff_not]
    refine ⟨⟨⟨⟨?_, ?_⟩, ?_⟩, ?_⟩, ?_⟩ <;> exact other (by decide)
  simp [begun, mark, solid, digit]

theorem reads_number (spelling : Text) {text : Text} (word : ∀ c ∈ text, isWordChar c = true) :
    (number spelling).Reads text [] (number (spelling ++ text)) := by
  induction text generalizing spelling with
  | nil => simpa using Reads.refl (number spelling)
  | cons c rest ih =>
      obtain ⟨first, others⟩ := List.forall_mem_cons.mp word
      have stepped : (number spelling).step c = some (number (spelling ++ [c]), []) := by
        simp [step, continuesNumber, first]
      have later := ih (spelling ++ [c]) others
      rw [List.append_assoc] at later
      exact Reads.cons stepped later

theorem reads_decimal (n : Nat) (first : Bool) :
    (between first).Reads (Text.decimal n) [] (number (Text.decimal n)) := by
  have digits : ∀ c ∈ Text.decimal n, c.isDigit = true :=
    fun _ member => Nat.isDigit_of_mem_toDigits (by decide) (by decide) member
  have nonempty : Text.decimal n ≠ [] := Nat.toDigits_ne_nil
  obtain ⟨c, rest, split⟩ := List.exists_cons_of_ne_nil nonempty
  rw [split] at digits ⊢
  obtain ⟨digit, others⟩ := List.forall_mem_cons.mp digits
  have stepped : (between first).step c = some (number [c], []) :=
    congrArg some (begun_of_isDigit digit first)
  have word : ∀ d ∈ rest, isWordChar d = true := by
    intro d member
    simp [isWordChar, Char.isAlphanum, others d member]
  exact Reads.cons stepped (reads_number [c] word)

theorem reads_literal {quote : Quote} (content : Text) {text : Text} (holds : quote.Holds text) :
    (literal quote content false).Reads text [] (literal quote (content ++ text) false) := by
  induction text generalizing content with
  | nil => simpa using Reads.refl (literal quote content false)
  | cons c rest ih =>
      obtain ⟨⟨feed, backslash, mark⟩, others⟩ := List.forall_mem_cons.mp holds
      have stepped : (literal quote content false).step c =
          some (literal quote (content ++ [c]) false, []) := by
        simp [step, feed, backslash, mark]
      have later := ih (content ++ [c]) others
      rw [List.append_assoc] at later
      exact Reads.cons stepped later

end Mode

end KernelSymbols.CSource
