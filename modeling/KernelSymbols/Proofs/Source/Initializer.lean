import KernelSymbols.Proofs.Layout
import KernelSymbols.Proofs.Reference
import KernelSymbols.Proofs.Source.Braces

set_option autoImplicit false

namespace KernelSymbols

open CSource

-- A symbol whose kind and name mean themselves between quotes.
def Symbol.Quotable (symbol : Symbol) : Prop :=
  (0x20 ≤ symbol.kind.toNat ∧ symbol.kind.toNat < 0x7F) ∧
    (symbol.kind ≠ '\x27' ∧ symbol.kind ≠ '\\') ∧ '"' ∉ symbol.name ∧ '\\' ∉ symbol.name

instance (symbol : Symbol) : Decidable symbol.Quotable := by
  unfold Symbol.Quotable; infer_instance

def Symbol.tokens (symbol : Symbol) : List Token :=
  [.number ("0x".toList ++ symbol.address ++ "ul".toList), .mark ',',
    .number ("0x".toList ++ symbol.size), .mark ',',
    .literal .single [symbol.kind], .mark ',', .literal .double symbol.name]

def Symbol.entryTokens (symbol : Symbol) : List Token :=
  openingBrace :: symbol.tokens ++ [closingBrace] ++ [.mark ',']

namespace CSource

theorem isWordChar_of_isHexDigit {c : Char} (digit : Text.isHexDigit c = true) :
    isWordChar c = true := by
  have letter : c.isAlpha = (c.isUpper || c.isLower) := rfl
  simp only [Text.isHexDigit, Bool.or_eq_true, Bool.and_eq_true, decide_eq_true_eq] at digit
  rcases digit with (decimal | ⟨least, most⟩) | ⟨least, most⟩
  · simp [isWordChar, Char.isAlphanum, decimal]
  · have lower : c.isLower = true :=
      Bool.and_eq_true_iff.mpr
        ⟨decide_eq_true least, decide_eq_true (UInt32.le_trans most (by decide))⟩
    simp [isWordChar, Char.isAlphanum, letter, lower]
  · have upper : c.isUpper = true := decide_eq_true ⟨least, UInt32.le_trans most (by decide)⟩
    simp [isWordChar, Char.isAlphanum, letter, upper]

theorem isWordChar_of_mem {text : Text} (digits : Text.isHexadecimal text = true) :
    ∀ c ∈ text, isWordChar c = true :=
  fun c member => isWordChar_of_isHexDigit (((Text.isHexadecimal_iff text).mp digits).2 c member)

theorem holds_kind {symbol : Symbol} (quotable : symbol.Quotable) :
    Quote.single.Holds [symbol.kind] := by
  obtain ⟨⟨printable, -⟩, ⟨quote, backslash⟩, -⟩ := quotable
  have feed : symbol.kind ≠ '\n' := by
    intro feed
    rw [feed] at printable
    exact absurd printable (by decide)
  simpa [Quote.Holds] using ⟨feed, backslash, quote⟩

theorem holds_name {symbol : Symbol} (quotable : symbol.Quotable) (unbroken : symbol.Unbroken) :
    Quote.double.Holds symbol.name := by
  obtain ⟨-, -, quote, backslash⟩ := quotable
  intro c member
  refine ⟨?_, ?_, ?_⟩
  · rintro rfl
    exact unbroken.name member
  · rintro rfl
    exact backslash member
  · rintro rfl
    exact quote member

namespace Mode

theorem reads_numbers (symbol : Symbol) :
    (between true).Reads
      ("    \x7b 0x".toList ++ (symbol.address ++ "ul".toList) ++ ", 0x".toList ++ symbol.size ++
        ", '".toList)
      [openingBrace, .number ("0x".toList ++ symbol.address ++ "ul".toList), .mark ',',
        .number ("0x".toList ++ symbol.size), .mark ',']
      (literal .single [] false) := by
  have suffixed : ∀ c ∈ symbol.address ++ "ul".toList, isWordChar c = true :=
    List.forall_mem_append.mpr
      ⟨isWordChar_of_mem symbol.address_digits, List.all_eq_true.mp (by decide)⟩
  have opening : (between true).Reads "    \x7b 0x".toList [openingBrace] (number "0x".toList) :=
    rfl
  have address := reads_number "0x".toList suffixed
  have middle (spelling : Text) :
      (number spelling).Reads ", 0x".toList [.number spelling, .mark ','] (number "0x".toList) :=
    rfl
  have size := reads_number "0x".toList (isWordChar_of_mem symbol.size_digits)
  have closing (spelling : Text) :
      (number spelling).Reads ", '".toList [.number spelling, .mark ',']
        (literal .single [] false) :=
    rfl
  exact opening.append address |>.append (middle _) |>.append size |>.append (closing _)

theorem reads_literals {kind : Char} {name : Text} (character : Quote.single.Holds [kind])
    (string : Quote.double.Holds name) :
    (literal .single [] false).Reads
      ([kind] ++ "', \"".toList ++ name ++ "\" \x7d,\n".toList)
      [.literal .single [kind], .mark ',', .literal .double name, closingBrace, .mark ',']
      (between true) := by
  have middle (content : Text) :
      (literal .single content false).Reads "', \"".toList [.literal .single content, .mark ',']
        (literal .double [] false) :=
    rfl
  have closing (content : Text) :
      (literal .double content false).Reads "\" \x7d,\n".toList
        [.literal .double content, closingBrace, .mark ','] (between true) :=
    rfl
  exact reads_literal [] character |>.append (middle _) |>.append (reads_literal [] string)
    |>.append (closing _)

theorem reads_entry {symbol : Symbol} (quotable : symbol.Quotable) (unbroken : symbol.Unbroken) :
    (between true).Reads symbol.fields.entry symbol.entryTokens (between true) := by
  have literals := reads_literals (holds_kind quotable) (holds_name quotable unbroken)
  have joint : "ul, 0x".toList = "ul".toList ++ ", 0x".toList := by decide
  have spelled : symbol.fields.entry =
      ("    \x7b 0x".toList ++ (symbol.address ++ "ul".toList) ++ ", 0x".toList ++ symbol.size ++
        ", '".toList) ++
        ([symbol.kind] ++ "', \"".toList ++ symbol.name ++ "\" \x7d,\n".toList) := by
    unfold Fields.entry Symbol.fields
    simp only [joint, List.append_assoc]
  rw [spelled]
  exact (reads_numbers symbol).append literals

theorem reads_entries {symbols : List Symbol}
    (plain : ∀ symbol ∈ symbols, symbol.Quotable ∧ symbol.Unbroken) :
    (between true).Reads ((symbols.map Symbol.fields).flatMap Fields.entry)
      (symbols.flatMap Symbol.entryTokens) (between true) := by
  rw [List.flatMap_map]
  apply Reads.flatMap
  intro symbol member
  obtain ⟨quotable, unbroken⟩ := plain symbol member
  exact reads_entry quotable unbroken

end Mode

open Mode

def declarations (size : Nat) : List Token :=
  [.directive "#include <kern/symbols.h>".toList,
    .name "int".toList, .name "symbol_table_size".toList, .name "__symtab".toList, .mark '=',
    .number (Text.decimal size), .mark ';',
    .name "struct".toList, .name "symbol".toList, .name "symbol_table".toList,
    .mark '[', .mark ']', .name "__symtab".toList, .mark '=']

def tableTokens (size : Nat) (initializer : List Token) : List Token :=
  declarations size ++ openingBrace :: initializer ++ [closingBrace, .mark ';']

theorem scan_fragment {symbols : List Symbol}
    (plain : ∀ symbol ∈ symbols, symbol.Quotable ∧ symbol.Unbroken) :
    scan (Listing.fragment (symbols.map Symbol.fields)) =
      some (tableTokens symbols.length (symbols.flatMap Symbol.entryTokens)) := by
  have header : (between true).Reads "#include <kern/symbols.h>\n".toList
      [.directive "#include <kern/symbols.h>".toList] (between true) :=
    rfl
  have declared : (between true).Reads "int symbol_table_size __symtab = ".toList
      [.name "int".toList, .name "symbol_table_size".toList, .name "__symtab".toList, .mark '=']
      (between false) :=
    rfl
  have size := reads_decimal (symbols.map Symbol.fields).length false
  have ended (spelling : Text) :
      (number spelling).Reads ";\n".toList [.number spelling, .mark ';'] (between true) :=
    rfl
  have opening : (between true).Reads "struct symbol symbol_table[] __symtab = \x7b\n".toList
      [.name "struct".toList, .name "symbol".toList, .name "symbol_table".toList,
        .mark '[', .mark ']', .name "__symtab".toList, .mark '=', openingBrace] (between true) :=
    rfl
  have closing : (between true).Reads "\x7d;\n".toList [closingBrace, .mark ';'] (between true) :=
    rfl
  have all := header.append declared |>.append size |>.append (ended _) |>.append opening
    |>.append (reads_entries plain) |>.append closing
  unfold Listing.fragment
  rw [scan_of_reads all, List.length_map]
  rfl

theorem not_brace_of_mem_tokens {symbol : Symbol} :
    ∀ token ∈ symbol.tokens, token ≠ openingBrace ∧ token ≠ closingBrace := by
  simp [Symbol.tokens, openingBrace, closingBrace]

theorem braced_entries (symbols : List Symbol) :
    Braced (symbols.flatMap Symbol.entryTokens) (symbols.map Symbol.tokens) := by
  apply Braced.flatMap
  intro symbol _
  have inner : Braced symbol.tokens [] := .of_no_brace not_brace_of_mem_tokens
  have comma : Braced [.mark ','] [] := .of_no_brace (by decide)
  exact inner.enclosed.append comma

theorem braced_tableTokens {size : Nat} {initializer : List Token} {groups : List (List Token)}
    (inner : Braced initializer groups) : Braced (tableTokens size initializer) [initializer] := by
  have before : Braced (declarations size) [] := by
    apply Braced.of_no_brace
    simp [declarations, openingBrace, closingBrace]
  have after : Braced [.mark ';'] [] := .of_no_brace (by decide)
  have split : tableTokens size initializer =
      declarations size ++ (openingBrace :: initializer ++ [closingBrace] ++ [.mark ';']) := by
    simp [tableTokens]
  rw [split]
  exact before.append (inner.enclosed.append after)

end CSource

namespace Generation

open Listing

theorem scan_output (excludes : Text → Bool) (bytes : Bytes)
    (accepted : (ofBytes excludes bytes).outcome = .ok ())
    (quotable : ∀ symbol ∈ symbols excludes (Listing.lines bytes), symbol.Quotable) :
    let records := symbols excludes (Listing.lines bytes)
    ∃ tokens initializer,
      scan (ofBytes excludes bytes).output = some tokens ∧
      tokens = declarations records.length ++ openingBrace :: initializer ++
        [closingBrace, .mark ';'] ∧
      groups? tokens = some [initializer] ∧
      groups? initializer = some (records.map Symbol.tokens) ∧
      records.length = (ofBytes excludes bytes).tally.retained := by
  intro records
  have sound := (outcome_eq_ok_iff excludes).mp accepted
  have plain : ∀ symbol ∈ records, symbol.Quotable ∧ symbol.Unbroken := by
    intro symbol member
    obtain ⟨line, whole, kept⟩ := List.mem_filterMap.mp member
    exact ⟨quotable symbol member, unbroken_of_symbol? kept (not_mem_of_mem_lines whole)⟩
  have inner := braced_entries records
  refine ⟨_, records.flatMap Symbol.entryTokens, ?_, rfl, (braced_tableTokens inner).groups?_eq,
    inner.groups?_eq, ?_⟩
  · rw [ofBytes_of_sound excludes sound, filterMap_kept? excludes sound]
    exact scan_fragment plain
  · rw [ofBytes_of_sound excludes sound, counts, filterMap_kept? excludes sound]
    exact (List.length_map _).symm

-- Here names hold braces and what would start a comment, and one kind is a quote.
theorem scan_output_of_odd_names :
    let excludes : Text → Bool := fun _ => false
    let bytes := Utf8.encode "01 2 \x7b a\x7d,'/*\nno symbol\nF 30 \" é\r//#".toList
    let records := symbols excludes (Listing.lines bytes)
    (ofBytes excludes bytes).outcome = .ok () ∧ (∀ symbol ∈ records, symbol.Quotable) ∧
      ∃ tokens initializer,
        scan (ofBytes excludes bytes).output = some tokens ∧ groups? tokens = some [initializer] ∧
        groups? initializer = some
          [[.number "0x01ul".toList, .mark ',', .number "0x2".toList, .mark ',',
              .literal .single ['\x7b'], .mark ',', .literal .double "a\x7d,'/*".toList],
            [.number "0xFul".toList, .mark ',', .number "0x30".toList, .mark ',',
              .literal .single ['"'], .mark ',', .literal .double "é\r//#".toList]] := by
  intro excludes bytes records
  have accepted : (ofBytes excludes bytes).outcome = .ok () := by decide +kernel
  have quotable : ∀ symbol ∈ records, symbol.Quotable := by decide +kernel
  have spelled : records.map Symbol.tokens =
      [[.number "0x01ul".toList, .mark ',', .number "0x2".toList, .mark ',',
          .literal .single ['\x7b'], .mark ',', .literal .double "a\x7d,'/*".toList],
        [.number "0xFul".toList, .mark ',', .number "0x30".toList, .mark ',',
          .literal .single ['"'], .mark ',', .literal .double "é\r//#".toList]] := by
    decide +kernel
  obtain ⟨tokens, initializer, scanned, -, whole, groups, -⟩ :=
    scan_output excludes bytes accepted quotable
  exact ⟨accepted, quotable, tokens, initializer, scanned, whole,
    groups.trans (congrArg some spelled)⟩

end Generation

end KernelSymbols
