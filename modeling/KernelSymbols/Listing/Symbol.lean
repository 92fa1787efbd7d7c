import KernelSymbols.Listing.Fields
import KernelSymbols.Text.Hexadecimal

set_option autoImplicit false

namespace KernelSymbols

inductive NumericField
  | address
  | size
deriving DecidableEq, Repr

inductive FieldFault
  | notHexadecimal (field : NumericField) (value : Text)
  | notOneCharacter (value : Text)
deriving DecidableEq, Repr

structure Symbol where
  address : Text
  size : Text
  kind : Char
  name : Text
  address_digits : Text.isHexadecimal address = true
  size_digits : Text.isHexadecimal size = true
deriving DecidableEq, Repr

namespace Symbol

def fields (symbol : Symbol) : Fields :=
  ⟨symbol.address, symbol.size, [symbol.kind], symbol.name⟩

def ofFields (fields : Fields) : Except FieldFault Symbol :=
  if address_digits : Text.isHexadecimal fields.address = true then
    if size_digits : Text.isHexadecimal fields.size = true then
      match fields.kind with
      | [kind] =>
          .ok ⟨fields.address, fields.size, kind, fields.name, address_digits, size_digits⟩
      | value => .error (.notOneCharacter value)
    else .error (.notHexadecimal .size fields.size)
  else .error (.notHexadecimal .address fields.address)

theorem ofFields_fields (symbol : Symbol) : ofFields symbol.fields = .ok symbol := by
  simp [ofFields, fields, symbol.address_digits, symbol.size_digits]

theorem fields_of_ofFields {fields : Fields} {symbol : Symbol}
    (h : ofFields fields = .ok symbol) : fields = symbol.fields := by
  rw [ofFields] at h
  split at h
  · split at h
    · split at h
      next kind hk =>
        cases h
        cases fields
        simp_all [Symbol.fields]
      · cases h
    · cases h
  · cases h

theorem ofFields_eq_ok_iff {fields : Fields} {symbol : Symbol} :
    ofFields fields = .ok symbol ↔ fields = symbol.fields :=
  ⟨fields_of_ofFields, fun h => h ▸ ofFields_fields symbol⟩

/-- An element of a C array of `struct symbol`. Kind and name are written as they are. -/
def initializer (symbol : Symbol) : Text :=
  "\x7b 0x".toList ++ symbol.address ++ "ul, 0x".toList ++ symbol.size ++ ", '".toList ++
    symbol.kind :: "', \"".toList ++ symbol.name ++ "\" \x7d".toList

end Symbol

end KernelSymbols
