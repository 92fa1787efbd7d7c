import KernelSymbols.Reader

set_option autoImplicit false

namespace KernelSymbols

/-- What the program asks of its system, which says in its own words why it refused. -/
structure Host (m : Type → Type) (Source Target : Type) where
  standardInput : Source
  standardOutput : m Target
  openFile : Text → m (Except Text Source)
  createFile : Text → m (Except Text Target)
  feed : (Text → Bool) → Reader → Source → m Reader
  -- Given back is the target as the writing leaves it.
  write : Target → Text → m (Except Text Target)
  flush : Target → m (Except Text Unit)
  report : Text → m Unit

end KernelSymbols
