import KernelSymbols.Text.Basic

set_option autoImplicit false

namespace KernelSymbols.Text

abbrev Ranges := List (Nat × Nat)

namespace Ranges

def covers : Ranges → Nat → Bool
  | [], _ => false
  | (first, last) :: rest, n => decide (first ≤ n) && (decide (n ≤ last) || covers rest n)

end Ranges

end KernelSymbols.Text
