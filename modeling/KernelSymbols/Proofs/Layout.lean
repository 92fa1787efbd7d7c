import KernelSymbols.Proofs.History
import Mathlib.Data.List.Chain

set_option autoImplicit false

namespace KernelSymbols

namespace Text

structure IsNumeral (digits : Text) (n : Nat) : Prop where
  nonempty : digits ≠ []
  digit : ∀ c ∈ digits, c.isDigit = true
  value : Nat.ofDigitChars 10 digits 0 = n
  leading : digits.head? = some '0' → digits = ['0']

theorem head?_decimal {n : Nat} (h : (decimal n).head? = some '0') : decimal n = ['0'] := by
  rw [decimal] at h ⊢
  induction n using Nat.strongRecOn with
  | _ n ih =>
      by_cases small : n < 10
      · rw [Nat.toDigits_of_lt_base small] at h ⊢
        exact congrArg ([·]) (Option.some.inj h)
      · have large : 10 ≤ n := by omega
        have ten : 1 < 10 := by decide
        rw [Nat.toDigits_of_base_le ten large] at h
        rw [List.head?_append_of_ne_nil _ Nat.toDigits_ne_nil] at h
        have zero := ih (n / 10) (by omega) h
        have value : Nat.ofDigitChars 10 (Nat.toDigits 10 (n / 10)) 0 = n / 10 :=
          Nat.ofDigitChars_ten_toDigits
        rw [zero] at value
        have none : 0 = n / 10 := value
        omega

theorem isNumeral_decimal (n : Nat) : IsNumeral (decimal n) n where
  nonempty := Nat.toDigits_ne_nil
  digit := fun _ member => Nat.isDigit_of_mem_toDigits (by decide) (by decide) member
  value := Nat.ofDigitChars_ten_toDigits
  leading := head?_decimal

end Text

structure Symbol.Unbroken (symbol : Symbol) : Prop where
  kind : symbol.kind ≠ '\n'
  name : '\n' ∉ symbol.name

namespace Fragment

def sizeStart : Text := "int symbol_table_size __symtab = ".toList

def entryStart : Text := "    \x7b ".toList

-- An entry up to its kind: nothing but hexadecimal digits comes from the listing.
def entryHead (symbol : Symbol) : Text :=
  entryStart ++ ("0x".toList ++ symbol.address ++ "ul, 0x".toList ++ symbol.size ++ ", '".toList)

def entryTail (symbol : Symbol) : Text :=
  symbol.kind :: "', \"".toList ++ symbol.name ++ "\" \x7d,".toList

theorem entryLine_eq (symbol : Symbol) :
    entryLine symbol.initializer = entryHead symbol ++ entryTail symbol := by
  have indent : entryStart = "    ".toList ++ "\x7b ".toList := by decide
  have opening : "\x7b 0x".toList = "\x7b ".toList ++ "0x".toList := by decide
  have closing : "\" \x7d,".toList = "\" \x7d".toList ++ ",".toList := by decide
  unfold entryLine Symbol.initializer entryHead entryTail
  simp only [indent, opening, closing, List.append_assoc, List.cons_append]

theorem lineFeed_not_mem_entryHead (symbol : Symbol) : '\n' ∉ entryHead symbol := by
  have start : '\n' ∉ entryStart := by decide
  have address : '\n' ∉ symbol.address :=
    Text.not_mem_of_isHexadecimal symbol.address_digits (by decide)
  have size : '\n' ∉ symbol.size := Text.not_mem_of_isHexadecimal symbol.size_digits (by decide)
  simp [entryHead, start, address, size]

-- A text in which a space follows only a comma or a quote.
def Tight (text : Text) : Prop :=
  text.IsChain fun before c => c = ' ' → before = ',' ∨ before = '"'

theorem tight_of_not_mem {text : Text} (h : ' ' ∉ text) : Tight text := by
  apply List.Pairwise.isChain
  apply List.pairwise_of_forall_mem_list
  intro before _ c member space
  rw [space] at member
  exact absurd member h

theorem tight_entryTail {symbol : Symbol} (spaceless : symbol.Spaceless) :
    Tight (entryTail symbol) := by
  have name := tight_of_not_mem spaceless.name
  unfold Tight at name ⊢
  simp [entryTail, List.isChain_append, List.isChain_cons, name]

theorem Tight.isPrefixOf_eq_false {start text : Text} (tight : Tight text) (loose : ¬ Tight start) :
    start.isPrefixOf text = false := by
  apply Bool.eq_false_iff.mpr
  intro starts
  have begun : Tight start := List.IsChain.prefix tight (List.isPrefixOf_iff_prefix.mp starts)
  exact loose begun

instance (text : Text) : Decidable (Tight text) := by
  unfold Tight; infer_instance

theorem pieces_entryLine {symbol : Symbol} (spaceless : symbol.Spaceless) :
    ∃ first others, Text.pieces '\n' (entryLine symbol.initializer) = first :: others ∧
      entryStart <+: first ∧ ∀ line ∈ others, Tight line := by
  obtain ⟨first, others, split, joined⟩ :=
    Text.pieces_append (lineFeed_not_mem_entryHead symbol) (entryTail symbol)
  refine ⟨entryHead symbol ++ first, others, ?_, ?_, ?_⟩
  · rw [entryLine_eq, joined]
  · rw [entryHead, List.append_assoc]
    exact List.prefix_append _ _
  · intro line member
    have inside : line ∈ Text.pieces '\n' (entryTail symbol) := by
      rw [split]
      exact List.mem_cons_of_mem first member
    exact List.IsChain.infix (tight_entryTail spaceless) (Text.infix_of_mem_pieces inside)

theorem sizeLines_entryLine {symbol : Symbol} (spaceless : symbol.Spaceless) :
    (Text.pieces '\n' (entryLine symbol.initializer)).filter (sizeStart.isPrefixOf ·) = [] := by
  obtain ⟨first, others, split, starts, tight⟩ := pieces_entryLine spaceless
  have other : sizeStart.isPrefixOf first = false := by
    apply Bool.eq_false_iff.mpr
    intro declares
    have shorter : entryStart.length ≤ sizeStart.length := by decide
    have both := List.prefix_of_prefix_length_le starts (List.isPrefixOf_iff_prefix.mp declares)
      shorter
    exact absurd both (by decide)
  have none : others.filter (sizeStart.isPrefixOf ·) = [] := by
    apply List.filter_eq_nil_iff.mpr
    intro line member
    simp [(tight line member).isPrefixOf_eq_false (by decide : ¬ Tight sizeStart)]
  rw [split, List.filter_cons_of_neg (by simp [other]), none]

theorem entries_entryLine {symbol : Symbol} (spaceless : symbol.Spaceless) :
    (Text.pieces '\n' (entryLine symbol.initializer)).countP (entryStart.isPrefixOf ·) = 1 := by
  obtain ⟨first, others, split, starts, tight⟩ := pieces_entryLine spaceless
  have none : others.countP (entryStart.isPrefixOf ·) = 0 := by
    apply List.countP_eq_zero.mpr
    intro line member
    simp [(tight line member).isPrefixOf_eq_false (by decide : ¬ Tight entryStart)]
  rw [split, List.countP_cons, none]
  simp [List.isPrefixOf_iff_prefix.mpr starts]

theorem sizeLine_eq (size : Nat) :
    sizeLine size = sizeStart ++ (Text.decimal size ++ ";".toList) := by
  unfold sizeLine sizeStart
  exact List.append_assoc _ _ _

theorem pieces_sizeLine (size : Nat) : Text.pieces '\n' (sizeLine size) = [sizeLine size] := by
  have start : '\n' ∉ sizeStart := by decide
  have digits : '\n' ∉ Text.decimal size := Text.not_mem_decimal size (by decide)
  have ending : '\n' ∉ ";".toList := by decide
  apply Text.pieces_of_not_mem
  rw [sizeLine_eq, List.mem_append, List.mem_append]
  exact not_or.mpr ⟨start, not_or.mpr ⟨digits, ending⟩⟩

theorem pieces_text (table : SymbolTable) :
    Text.pieces '\n' (text table) =
      headerLine :: sizeLine table.size :: openingLine ::
        ((table.toList.flatMap fun entry => Text.pieces '\n' (entryLine entry)) ++
          [closingLine, []]) := by
  have header : Text.pieces '\n' headerLine = [headerLine] := by decide
  have opening : Text.pieces '\n' openingLine = [openingLine] := by decide
  have closing : Text.pieces '\n' closingLine = [closingLine] := by decide
  simp only [text, pieces, Text.pieces_flatten, lines, List.flatMap_cons, List.flatMap_append,
    List.flatMap_map, List.flatMap_nil, header, pieces_sizeLine, opening, closing,
    List.append_assoc, List.cons_append, List.nil_append]

structure Declares (lines : List Text) (n : Nat) : Prop where
  size : ∃ digits, Text.IsNumeral digits n ∧
    lines.filter (sizeStart.isPrefixOf ·) = [sizeStart ++ (digits ++ ";".toList)]
  entries : lines.countP (entryStart.isPrefixOf ·) = n

theorem declares_text {table : SymbolTable} {symbols : List Symbol}
    (entries : table.toList = symbols.map Symbol.initializer)
    (spaceless : ∀ symbol ∈ symbols, symbol.Spaceless) :
    Declares (Text.pieces '\n' (text table)) table.size where
  size := by
    have others : (table.toList.flatMap fun entry => Text.pieces '\n' (entryLine entry)).filter
        (sizeStart.isPrefixOf ·) = [] := by
      rw [entries, List.flatMap_map, List.filter_flatMap]
      apply List.flatMap_eq_nil_iff.mpr
      intro symbol member
      exact sizeLines_entryLine (spaceless symbol member)
    have header : sizeStart.isPrefixOf headerLine = false := by decide
    have own : sizeStart.isPrefixOf (sizeLine table.size) = true := by
      rw [sizeLine_eq]
      exact List.isPrefixOf_iff_prefix.mpr (List.prefix_append _ _)
    have opening : sizeStart.isPrefixOf openingLine = false := by decide
    have ending : [closingLine, []].filter (sizeStart.isPrefixOf ·) = [] := by decide
    refine ⟨Text.decimal table.size, Text.isNumeral_decimal table.size, ?_⟩
    simp only [pieces_text, List.filter_cons, List.filter_append, header, own, opening, others,
      ending, ← sizeLine_eq]
    rfl
  entries := by
    have each : (table.toList.flatMap fun entry => Text.pieces '\n' (entryLine entry)).countP
        (entryStart.isPrefixOf ·) = table.size := by
      rw [← SymbolTable.length_toList, entries, List.flatMap_map, List.countP_flatMap,
        List.length_map]
      have one : ∀ symbol ∈ symbols, (List.countP (entryStart.isPrefixOf ·) ∘
          fun symbol : Symbol => Text.pieces '\n' (entryLine symbol.initializer)) symbol = 1 :=
        fun symbol member => entries_entryLine (spaceless symbol member)
      rw [List.map_congr_left one]
      simp
    have header : entryStart.isPrefixOf headerLine = false := by decide
    have size : entryStart.isPrefixOf (sizeLine table.size) = false := by
      rw [sizeLine_eq]
      rfl
    have opening : entryStart.isPrefixOf openingLine = false := by decide
    have ending : [closingLine, []].countP (entryStart.isPrefixOf ·) = 0 := by decide
    simp [pieces_text, List.countP_append, header, size, opening, each, ending]

end Fragment

namespace Listing

theorem unbroken_of_symbol? {excludes : Text → Bool} {line : Bytes} {symbol : Symbol}
    (h : symbol? excludes line = some symbol) (whole : lineFeed ∉ line) : symbol.Unbroken := by
  have unbroken := lineFeed_not_mem_of_symbol? h whole
  constructor
  · intro kind
    exact unbroken (by simp [Fields.line, Symbol.fields, kind])
  · intro name
    exact unbroken (by simp [Fields.line, Symbol.fields, name])

end Listing

namespace Collector

open Listing

end Collector

end KernelSymbols
