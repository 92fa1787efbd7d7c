import KernelSymbols.Listing.Error

set_option autoImplicit false

namespace KernelSymbols

inductive Failure
  | openInput (path : Text) (cause : Text)
  | readListing (error : ListingError)
  | createOutput (path : Text) (cause : Text)
  | writeTable (cause : Text)
deriving DecidableEq, Repr

namespace Failure

def context : Failure → Text
  | .openInput path _ => "failed to open ".toList ++ path
  | .readListing _ => "failed to read symbol listing".toList
  | .createOutput path _ => "failed to create ".toList ++ path
  | .writeTable _ => "failed to write symbol table".toList

def cause : Failure → Text
  | .openInput _ cause | .createOutput _ cause | .writeTable cause => cause
  | .readListing error => error.message

def report (failure : Failure) : List Text :=
  ["Error: ".toList ++ failure.context, [], "Caused by:".toList,
    "    ".toList ++ failure.cause]

end Failure

end KernelSymbols
