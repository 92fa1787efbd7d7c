import KernelSymbols.Listing.Symbol
import KernelSymbols.Text.Quoted

set_option autoImplicit false

namespace KernelSymbols

inductive ListingError
  | field (line : Nat) (fault : FieldFault)
  | encoding (line : Nat)
  | stream (message : Text)
deriving DecidableEq, Repr

def NumericField.label : NumericField → Text
  | .address => "address".toList
  | .size => "size".toList

def FieldFault.message : FieldFault → Text
  | .notHexadecimal field value =>
      field.label ++ " field is not a hexadecimal number: ".toList ++ Text.quote value
  | .notOneCharacter value =>
      "symbol kind must be a single character: ".toList ++ Text.quote value

def ListingError.message : ListingError → Text
  | .field line fault => "line ".toList ++ Text.decimal line ++ ": ".toList ++ fault.message
  | .encoding line => "line ".toList ++ Text.decimal line ++ ": not valid UTF-8".toList
  | .stream message => message

end KernelSymbols
