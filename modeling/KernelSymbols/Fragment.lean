import KernelSymbols.SymbolTable

set_option autoImplicit false

namespace KernelSymbols.Fragment

def headerLine : Text := "#include <kern/symbols.h>".toList

def sizeLine (size : Nat) : Text :=
  "int symbol_table_size __symtab = ".toList ++ Text.decimal size ++ ";".toList

def openingLine : Text := "struct symbol symbol_table[] __symtab = \x7b".toList

def entryLine (entry : Text) : Text := "    ".toList ++ entry ++ ",".toList

def closingLine : Text := "\x7d;".toList

def lines (table : SymbolTable) : List Text :=
  headerLine :: sizeLine table.size :: openingLine ::
    (table.toList.map entryLine ++ [closingLine])

theorem length_lines (table : SymbolTable) : (lines table).length = table.size + 4 := by
  simp [lines]

/-- The lines as they are written, each with the line feed that ends it. -/
def pieces (table : SymbolTable) : List Text := (lines table).map (· ++ ['\n'])

def text (table : SymbolTable) : Text := (pieces table).flatten

theorem text_eq (table : SymbolTable) :
    text table =
      headerLine ++ '\n' :: (sizeLine table.size ++ '\n' :: (openingLine ++ '\n' ::
        ((table.toList.flatMap fun entry => entryLine entry ++ ['\n']) ++
          (closingLine ++ ['\n'])))) := by
  simp only [text, pieces, lines, List.flatMap_def, List.map_cons, List.map_append, List.map_map,
    List.map_nil, List.flatten_cons, List.flatten_append, List.flatten_nil, List.append_assoc,
    List.cons_append, List.nil_append, List.append_nil, Function.comp_def]

end KernelSymbols.Fragment
