import KernelSymbols.Proofs.Accumulation
import Mathlib.Data.List.Basic

set_option autoImplicit false

namespace KernelSymbols

namespace Text

def hexDigits : Text := "0123456789abcdefABCDEF".toList

def IsHexNumeral (text : Text) : Prop := text ≠ [] ∧ ∀ c ∈ text, c ∈ hexDigits

theorem mem_hexDigits_iff {c : Char} : c ∈ hexDigits ↔ isHexDigit c = true := by
  have injective : Function.Injective Char.toNat := fun _ _ => Char.toNat_inj.mp
  have numbers : hexDigits.map Char.toNat =
      [48, 49, 50, 51, 52, 53, 54, 55, 56, 57, 97, 98, 99, 100, 101, 102, 65, 66, 67, 68, 69,
        70] := by
    decide
  rw [← List.mem_map_of_injective injective, numbers, isHexDigit_iff]
  simp only [List.mem_cons, List.not_mem_nil, or_false]
  omega

theorem isHexNumeral_iff {text : Text} : IsHexNumeral text ↔ isHexadecimal text = true := by
  simp only [IsHexNumeral, isHexadecimal_iff, mem_hexDigits_iff]

theorem hexadecimal_append_cons {left right : Text} (digits : isHexadecimal left = true)
    (others : isHexadecimal right = true) {stop : Char} (other : isHexDigit stop = false)
    {rest further : Text} (same : left ++ stop :: rest = right ++ stop :: further) :
    left = right ∧ rest = further := by
  have read {numeral : Text} (spelled : isHexadecimal numeral = true) (after : Text) :
      (numeral ++ stop :: after).takeWhile isHexDigit = numeral := by
    rw [List.takeWhile_append_of_pos ((isHexadecimal_iff numeral).mp spelled).2]
    simp [other]
  have first : left = right := by rw [← read digits rest, same, read others further]
  subst first
  exact ⟨rfl, (List.cons.inj (List.append_cancel_left same)).2⟩

end Text

-- How the fields of an element of a C array of `struct symbol` are spelled.
structure Fields.Initializes (fields : Fields) (text : Text) : Prop where
  address : fields.address.IsHexNumeral
  size : fields.size.IsHexNumeral
  kind : fields.kind.length = 1
  spelled : text =
    "\x7b 0x".toList ++ fields.address ++ "ul, 0x".toList ++ fields.size ++ ", '".toList ++
      fields.kind ++ "', \"".toList ++ fields.name ++ "\" \x7d".toList

inductive Fields.Offends (fields : Fields) : FieldFault → Prop
  | address (unfit : ¬ fields.address.IsHexNumeral) :
      Offends fields (.notHexadecimal .address fields.address)
  | size (address : fields.address.IsHexNumeral) (unfit : ¬ fields.size.IsHexNumeral) :
      Offends fields (.notHexadecimal .size fields.size)
  | kind (address : fields.address.IsHexNumeral) (size : fields.size.IsHexNumeral)
      (unfit : fields.kind.length ≠ 1) :
      Offends fields (.notOneCharacter fields.kind)

theorem Fields.offends_iff {fields : Fields} {fault : FieldFault} :
    fields.Offends fault ↔ fields.fits = false ∧ fields.fault = fault := by
  constructor
  · intro offends
    cases offends <;> simp_all [fits, Fields.fault, Text.isHexNumeral_iff]
  · rintro ⟨misfit, rfl⟩
    rw [Fields.fault]
    split
    next unfit => exact .address (by simp [Text.isHexNumeral_iff, unfit])
    next address =>
      rw [Bool.not_eq_false, ← Text.isHexNumeral_iff] at address
      split
      next unfit => exact .size address (by simp [Text.isHexNumeral_iff, unfit])
      next size =>
        rw [Bool.not_eq_false, ← Text.isHexNumeral_iff] at size
        apply Offends.kind address size
        simpa [fits, ← Text.isHexNumeral_iff, address, size] using misfit

namespace Symbol

theorem fields_injective : Function.Injective fields := by
  intro left right same
  have read := ofFields_fields left
  rw [same, ofFields_fields] at read
  exact (Except.ok.inj read).symm

theorem initializer_injective : Function.Injective initializer := by
  intro left right same
  have afterAddress : "ul, 0x".toList = 'u' :: "l, 0x".toList := by decide
  have afterSize : ", '".toList = ',' :: " '".toList := by decide
  unfold initializer at same
  simp only [afterAddress, afterSize, List.append_assoc, List.cons_append] at same
  have numbers := List.append_cancel_left same
  obtain ⟨address, sizes⟩ := Text.hexadecimal_append_cons left.address_digits
    right.address_digits (by decide) numbers
  obtain ⟨size, kinds⟩ := Text.hexadecimal_append_cons left.size_digits right.size_digits
    (by decide) (List.append_cancel_left sizes)
  obtain ⟨kind, names⟩ := List.cons.inj (List.append_cancel_left kinds)
  have name := List.append_cancel_right (List.append_cancel_left names)
  apply fields_injective
  simp only [fields, address, size, kind, name]

theorem initializes_fields (symbol : Symbol) : symbol.fields.Initializes symbol.initializer where
  address := Text.isHexNumeral_iff.mpr symbol.address_digits
  size := Text.isHexNumeral_iff.mpr symbol.size_digits
  kind := rfl
  spelled := by
    unfold initializer fields
    simp only [List.append_assoc, List.cons_append, List.nil_append]

theorem exists_of_initializes {fields : Fields} {text : Text} (spelled : fields.Initializes text) :
    ∃ symbol : Symbol, symbol.fields = fields ∧ symbol.initializer = text := by
  have fits : fields.fits = true := by
    simp [Fields.fits, ← Text.isHexNumeral_iff, spelled.address, spelled.size, spelled.kind]
  obtain ⟨symbol, rfl⟩ := exists_fields_eq fits
  refine ⟨symbol, rfl, ?_⟩
  rw [symbol.initializes_fields.spelled, ← spelled.spelled]

theorem ofFields_eq_error_iff {fields : Fields} {fault : FieldFault} :
    ofFields fields = .error fault ↔ fields.Offends fault := by
  constructor
  · intro reported
    have misfit : fields.fits = false := by
      by_contra fits
      obtain ⟨symbol, rfl⟩ := exists_fields_eq (by simpa using fits)
      rw [ofFields_fields] at reported
      cases reported
    rw [ofFields_of_not_fits misfit] at reported
    exact Fields.offends_iff.mpr ⟨misfit, Except.error.inj reported⟩
  · intro offends
    obtain ⟨misfit, rfl⟩ := Fields.offends_iff.mp offends
    exact ofFields_of_not_fits misfit

def ofFieldsAt (line : Nat) (fields : Fields) : Except ListingError Symbol :=
  (ofFields fields).mapError (.field line)

variable {line : Nat} {fields : Fields}

theorem ofFieldsAt_eq_ok_iff {symbol : Symbol} :
    ofFieldsAt line fields = .ok symbol ↔ fields = symbol.fields := by
  rw [← ofFields_eq_ok_iff, ofFieldsAt]
  cases ofFields fields with
  | ok kept => constructor <;> (intro same; cases same; rfl)
  | error fault => constructor <;> (intro same; cases same)

theorem ofFieldsAt_eq_error_iff {error : ListingError} :
    ofFieldsAt line fields = .error error ↔
      ∃ fault, fields.Offends fault ∧ error = .field line fault := by
  simp only [← ofFields_eq_error_iff, ofFieldsAt]
  cases ofFields fields with
  | ok kept =>
      constructor
      · intro same
        cases same
      · rintro ⟨fault, same, -⟩
        cases same
  | error fault =>
      constructor
      · intro same
        cases same
        exact ⟨fault, rfl, rfl⟩
      · rintro ⟨fault, same, rfl⟩
        cases same
        rfl

theorem map_fields_of_checked {pushes : List (Nat × Fields)} {symbols : List Symbol}
    (checked : List.Forall₂ (fun push symbol => ofFieldsAt push.1 push.2 = .ok symbol)
      pushes symbols) :
    pushes.map Prod.snd = symbols.map Symbol.fields := by
  induction checked with
  | nil => rfl
  | cons first _ ih => rw [List.map_cons, List.map_cons, ofFieldsAt_eq_ok_iff.mp first, ih]

end Symbol

theorem SymbolTable.pushAll_inj {table : SymbolTable} {symbols others : List Symbol} :
    table.pushAll symbols = table.pushAll others ↔ symbols = others := by
  rw [← toList_inj, toList_pushAll, toList_pushAll, List.append_right_inj]
  exact (List.map_injective_iff.mpr Symbol.initializer_injective).eq_iff

theorem Symbol.rendering_of_checked_fields :
    (∀ line fields text,
        (∃ symbol, ofFieldsAt line fields = .ok symbol ∧ symbol.initializer = text) ↔
          fields.Initializes text) ∧
      (∀ text (fields others : Fields),
        fields.Initializes text → others.Initializes text → fields = others) ∧
      (∀ (pushes others : List (Nat × Fields)) (symbols further : List Symbol),
        List.Forall₂ (fun push symbol => ofFieldsAt push.1 push.2 = .ok symbol) pushes symbols →
        List.Forall₂ (fun push symbol => ofFieldsAt push.1 push.2 = .ok symbol) others further →
        (({} : SymbolTable).pushAll symbols = ({} : SymbolTable).pushAll further ↔
          pushes.map Prod.snd = others.map Prod.snd)) ∧
      ∀ line fields error, ofFieldsAt line fields = .error error ↔
        ∃ fault, fields.Offends fault ∧ error = .field line fault := by
  refine ⟨?_, ?_, ?_, ?_⟩
  · intro line fields text
    constructor
    · rintro ⟨symbol, checked, rfl⟩
      rw [ofFieldsAt_eq_ok_iff.mp checked]
      exact symbol.initializes_fields
    · intro spelled
      obtain ⟨symbol, rfl, rendered⟩ := exists_of_initializes spelled
      exact ⟨symbol, ofFieldsAt_eq_ok_iff.mpr rfl, rendered⟩
  · intro text fields others first second
    obtain ⟨symbol, rfl, rendered⟩ := exists_of_initializes first
    obtain ⟨other, rfl, again⟩ := exists_of_initializes second
    rw [initializer_injective (rendered.trans again.symm)]
  · intro pushes others symbols further first second
    rw [SymbolTable.pushAll_inj, map_fields_of_checked first, map_fields_of_checked second]
    exact (List.map_injective_iff.mpr fields_injective).eq_iff.symm
  · intro line fields error
    exact ofFieldsAt_eq_error_iff

-- The kind is a quote, and the name looks like the rest of an entry and the next one.
theorem Symbol.rendering_of_odd_fields :
    let name := "x\" \x7d,\n    \x7b 0x1ul, 0x2, ".toList
    let fields : Fields := ⟨"0A".toList, "f".toList, ['"'], name⟩
    let symbol : Symbol := ⟨"0A".toList, "f".toList, '"', name, by decide, by decide⟩
    (∀ line, ofFieldsAt line fields = .ok symbol) ∧ fields.Initializes symbol.initializer ∧
      (∀ others : Fields, others.Initializes symbol.initializer → others = fields) ∧
      ({} : SymbolTable).pushAll [symbol] ≠ ({} : SymbolTable).pushAll [symbol, symbol] := by
  intro name fields symbol
  obtain ⟨rendered, unique, tables, -⟩ := rendering_of_checked_fields
  have checked (line : Nat) : ofFieldsAt line fields = .ok symbol :=
    ofFieldsAt_eq_ok_iff.mpr rfl
  have spelled : fields.Initializes symbol.initializer :=
    (rendered 1 fields _).mp ⟨symbol, checked 1, rfl⟩
  have pushed := tables [(3, fields)] [(8, fields), (9, fields)] [symbol] [symbol, symbol]
    (.cons (checked 3) .nil) (.cons (checked 8) (.cons (checked 9) .nil))
  refine ⟨checked, spelled, fun others again => unique _ _ _ again spelled, ?_⟩
  rw [ne_eq, pushed]
  simp

end KernelSymbols
