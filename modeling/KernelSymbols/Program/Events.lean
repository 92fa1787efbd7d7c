import KernelSymbols.Collector
import KernelSymbols.Exclusion
import KernelSymbols.Log

set_option autoImplicit false

namespace KernelSymbols

def quotedList (texts : List Text) : Text :=
  '[' :: ((texts.map Text.quote).intersperse ", ".toList).flatten ++ [']']

def Exclusion.event (exclusion : Exclusion) : Log.Event where
  level := .debug
  target := "gen_symtab".toList
  message := "excluding prefixes: ".toList ++ quotedList exclusion.prefixes

def Tally.event (tally : Tally) : Log.Event where
  level := .info
  target := "symtab::emitter".toList
  message :=
    "symbol listing read lines=".toList ++ Text.decimal tally.lines ++
      " retained=".toList ++ Text.decimal tally.retained ++
      " malformed=".toList ++ Text.decimal tally.malformed ++
      " excluded=".toList ++ Text.decimal tally.excluded

def SymbolTable.event (table : SymbolTable) : Log.Event where
  level := .debug
  target := "symtab::emitter".toList
  message := "writing ".toList ++ Text.decimal table.size ++ " symbols".toList

end KernelSymbols
