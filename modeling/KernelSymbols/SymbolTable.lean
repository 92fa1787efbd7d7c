import KernelSymbols.Listing.Symbol

set_option autoImplicit false

namespace KernelSymbols

structure SymbolTable where
  entries : Array Text := #[]
deriving DecidableEq, Repr

namespace SymbolTable

def push (table : SymbolTable) (symbol : Symbol) : SymbolTable :=
  ⟨table.entries.push symbol.initializer⟩

def size (table : SymbolTable) : Nat := table.entries.size

def isEmpty (table : SymbolTable) : Bool := table.entries.isEmpty

def toList (table : SymbolTable) : List Text := table.entries.toList

@[simp] theorem toList_empty : ({} : SymbolTable).toList = [] := rfl

@[simp] theorem toList_push (table : SymbolTable) (symbol : Symbol) :
    (table.push symbol).toList = table.toList ++ [symbol.initializer] := by
  simp [push, toList]

@[simp] theorem length_toList (table : SymbolTable) : table.toList.length = table.size := by
  simp [toList, size]

theorem toList_inj {left right : SymbolTable} : left.toList = right.toList ↔ left = right := by
  cases left; cases right
  simp [toList]

end SymbolTable

end KernelSymbols
