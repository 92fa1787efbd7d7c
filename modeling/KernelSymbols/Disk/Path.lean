import KernelSymbols.Text.Basic
import KernelSymbols.Text.Utf8

set_option autoImplicit false

namespace KernelSymbols

structure Path where
  absolute : Bool
  through : List Text
  last : Text
  endsInSlash : Bool
deriving DecidableEq, Repr

namespace Path

def ofText (text : Text) : Path :=
  let absolute := text.head? = some '/'
  match (Text.pieces '/' text).reverse.dropWhile List.isEmpty with
  | [] => ⟨absolute, [], [], true⟩
  | last :: before => ⟨absolute, before.reverse, last, text.getLast? = some '/'⟩

/-- Names of directories whatever the disk holds: here, and one up. -/
def isStep (name : Text) : Bool := name.isEmpty || name = ".".toList || name = "..".toList

def maxNameSize : Nat := 255

def maxSize : Nat := 4095

def nameFits (name : Text) : Bool := (Utf8.encode name).length ≤ maxNameSize

def fits (text : Text) : Bool := (Utf8.encode text).length ≤ maxSize

end Path

end KernelSymbols
