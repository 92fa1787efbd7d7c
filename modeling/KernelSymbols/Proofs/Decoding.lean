import KernelSymbols.Fragment

set_option autoImplicit false

namespace KernelSymbols

structure Symbol.Spaceless (symbol : Symbol) : Prop where
  kind : symbol.kind ≠ ' '
  name : ' ' ∉ symbol.name

namespace Fragment

-- A piece without so many characters at its start and at its end.
def unwrap (before after : Nat) (piece : Text) : Text :=
  (piece.drop before).take (piece.length - before - after)

theorem unwrap_append {start finish : Text} {before after : Nat} (hstart : start.length = before)
    (hfinish : finish.length = after) (middle : Text) :
    unwrap before after (start ++ middle ++ finish) = middle := by
  subst hstart hfinish
  simp [unwrap]

def symbolOfPieces? (address size kind name : Text) : Option Symbol :=
  (Symbol.ofFields
    ⟨unwrap 2 3 address, unwrap 2 1 size, unwrap 1 2 kind, unwrap 1 1 name⟩).toOption

-- The first piece ends the line before an entry. Three empty ones and a brace begin the entry, and
-- what follows its name begins the next line.
def symbolsOfPieces? : List Text → Option (List Symbol)
  | _ :: _ :: _ :: _ :: _ :: address :: size :: kind :: name :: rest =>
      (symbolOfPieces? address size kind name).bind fun symbol =>
        (symbolsOfPieces? rest).map (symbol :: ·)
  | [_] => some []
  | _ => none

def decode (text : Text) : Option (List Symbol) :=
  symbolsOfPieces? ((Text.pieces ' ' text).drop 10)

def addressPiece (symbol : Symbol) : Text := "0x".toList ++ symbol.address ++ "ul,".toList

def sizePiece (symbol : Symbol) : Text := "0x".toList ++ symbol.size ++ ",".toList

def kindPiece (symbol : Symbol) : Text := "'".toList ++ [symbol.kind] ++ "',".toList

def namePiece (symbol : Symbol) : Text := "\"".toList ++ symbol.name ++ "\"".toList

theorem symbolOfPieces?_eq (symbol : Symbol) :
    symbolOfPieces? (addressPiece symbol) (sizePiece symbol) (kindPiece symbol)
      (namePiece symbol) = some symbol := by
  have address : unwrap 2 3 (addressPiece symbol) = symbol.address :=
    unwrap_append (by decide) (by decide) symbol.address
  have size : unwrap 2 1 (sizePiece symbol) = symbol.size :=
    unwrap_append (by decide) (by decide) symbol.size
  have kind : unwrap 1 2 (kindPiece symbol) = [symbol.kind] :=
    unwrap_append (by decide) (by decide) [symbol.kind]
  have name : unwrap 1 1 (namePiece symbol) = symbol.name :=
    unwrap_append (by decide) (by decide) symbol.name
  have read := Symbol.ofFields_fields symbol
  simp only [symbolOfPieces?, address, size, kind, name]
  rw [← Symbol.fields, read]
  rfl

def spaced (words : List Text) : Text := words.flatMap (· ++ [' '])

theorem pieces_spaced_append {words : List Text} (h : ∀ word ∈ words, ' ' ∉ word) (rest : Text) :
    Text.pieces ' ' (spaced words ++ rest) = words ++ Text.pieces ' ' rest := by
  induction words with
  | nil => rfl
  | cons word words ih =>
      have first := h word List.mem_cons_self
      have others := ih fun other member => h other (List.mem_cons_of_mem _ member)
      have split : spaced (word :: words) ++ rest = word ++ ' ' :: (spaced words ++ rest) := by
        simp [spaced]
      rw [split, Text.pieces_append_cons first, others, List.cons_append]

def entryWords (symbol : Symbol) : List Text :=
  [[], [], [], "\x7b".toList, addressPiece symbol, sizePiece symbol, kindPiece symbol,
    namePiece symbol]

theorem not_mem_of_mem_entryWords {symbol : Symbol} (spaceless : symbol.Spaceless) :
    ∀ word ∈ entryWords symbol, ' ' ∉ word := by
  have address : ' ' ∉ symbol.address :=
    Text.not_mem_of_isHexadecimal symbol.address_digits (by decide)
  have size : ' ' ∉ symbol.size := Text.not_mem_of_isHexadecimal symbol.size_digits (by decide)
  have kind := Ne.symm spaceless.kind
  have name := spaceless.name
  simp [entryWords, addressPiece, sizePiece, kindPiece, namePiece, address, size, kind, name]

theorem append_entryLine (word : Text) (symbol : Symbol) (rest : Text) :
    word ++ (entryLine symbol.initializer ++ ['\n'] ++ rest) =
      spaced (word :: entryWords symbol) ++ ("\x7d,\n".toList ++ rest) := by
  have indent : "    ".toList = [' ', ' ', ' ', ' '] := by decide
  have opening : "\x7b 0x".toList = "\x7b".toList ++ ' ' :: "0x".toList := by decide
  have afterAddress : "ul, 0x".toList = "ul,".toList ++ ' ' :: "0x".toList := by decide
  have afterSize : ", '".toList = ",".toList ++ ' ' :: "'".toList := by decide
  have afterKind : "', \"".toList = "',".toList ++ ' ' :: "\"".toList := by decide
  have closing : "\" \x7d".toList = "\"".toList ++ ' ' :: "\x7d".toList := by decide
  have ending : "\x7d,\n".toList = "\x7d".toList ++ ",".toList ++ ['\n'] := by decide
  unfold entryLine Symbol.initializer spaced entryWords addressPiece sizePiece kindPiece namePiece
  simp only [indent, opening, afterAddress, afterSize, afterKind, closing, ending,
    List.flatMap_cons, List.flatMap_nil, List.append_assoc, List.cons_append, List.nil_append]

def entryLines (symbols : List Symbol) : Text :=
  symbols.flatMap fun symbol => entryLine symbol.initializer ++ ['\n']

theorem symbolsOfPieces?_entryLines {symbols : List Symbol}
    (spaceless : ∀ symbol ∈ symbols, symbol.Spaceless) {word : Text} (h : ' ' ∉ word) :
    symbolsOfPieces?
        (Text.pieces ' ' (word ++ (entryLines symbols ++ "\x7d;\n".toList))) =
      some symbols := by
  -- The word is the one that the entries follow: a brace for the first, a comma for the others.
  induction symbols generalizing word with
  | nil =>
      have last : ' ' ∉ word ++ "\x7d;\n".toList := by simp [h]
      have single := Text.pieces_of_not_mem last
      rw [entryLines, List.flatMap_nil, List.nil_append, single, symbolsOfPieces?]
  | cons symbol rest ih =>
      have words : ∀ other ∈ word :: entryWords symbol, ' ' ∉ other :=
        List.forall_mem_cons.mpr
          ⟨h, not_mem_of_mem_entryWords (spaceless symbol List.mem_cons_self)⟩
      have ending : ' ' ∉ "\x7d,\n".toList := by decide
      have others := ih (fun other member => spaceless other (List.mem_cons_of_mem _ member)) ending
      have lines : entryLines (symbol :: rest) ++ "\x7d;\n".toList =
          entryLine symbol.initializer ++ ['\n'] ++ (entryLines rest ++ "\x7d;\n".toList) := by
        rw [entryLines, List.flatMap_cons, List.append_assoc]
        rfl
      rw [lines, append_entryLine, pieces_spaced_append words]
      simp only [entryWords, List.cons_append, List.nil_append, symbolsOfPieces?,
        symbolOfPieces?_eq, others, Option.bind_some, Option.map_some]

def headerWords (size : Nat) : List Text :=
  ["#include".toList, "<kern/symbols.h>\nint".toList, "symbol_table_size".toList,
    "__symtab".toList, "=".toList, Text.decimal size ++ ";\nstruct".toList, "symbol".toList,
    "symbol_table[]".toList, "__symtab".toList, "=".toList]

theorem not_mem_of_mem_headerWords (size : Nat) : ∀ word ∈ headerWords size, ' ' ∉ word := by
  have digits : ' ' ∉ Text.decimal size := Text.not_mem_decimal size (by decide)
  simp [headerWords, digits]

theorem text_eq_spaced {table : SymbolTable} {symbols : List Symbol}
    (entries : table.toList = symbols.map Symbol.initializer) :
    text table =
      spaced (headerWords table.size) ++
        ("\x7b\n".toList ++ (entryLines symbols ++ "\x7d;\n".toList)) := by
  have header : headerLine = "#include".toList ++ ' ' :: "<kern/symbols.h>".toList := by decide
  have size : "int symbol_table_size __symtab = ".toList =
      "int".toList ++ ' ' :: ("symbol_table_size".toList ++ ' ' :: ("__symtab".toList ++
        ' ' :: ("=".toList ++ [' ']))) := by
    decide
  have opening : openingLine =
      "struct".toList ++ ' ' :: ("symbol".toList ++ ' ' :: ("symbol_table[]".toList ++
        ' ' :: ("__symtab".toList ++ ' ' :: ("=".toList ++ ' ' :: "\x7b".toList)))) := by
    decide
  have afterHeader : "<kern/symbols.h>\nint".toList =
      "<kern/symbols.h>".toList ++ '\n' :: "int".toList := by
    decide
  have afterSize : ";\nstruct".toList = ";".toList ++ '\n' :: "struct".toList := by decide
  have afterOpening : "\x7b\n".toList = "\x7b".toList ++ ['\n'] := by decide
  have closing : "\x7d;\n".toList = closingLine ++ ['\n'] := by decide
  rw [text_eq]
  unfold sizeLine entryLines spaced headerWords
  simp only [entries, header, size, opening, afterHeader, afterSize, afterOpening, closing,
    List.flatMap_cons, List.flatMap_nil, List.flatMap_map, List.append_assoc, List.cons_append,
    List.nil_append]

theorem decode_text {table : SymbolTable} {symbols : List Symbol}
    (entries : table.toList = symbols.map Symbol.initializer)
    (spaceless : ∀ symbol ∈ symbols, symbol.Spaceless) :
    decode (text table) = some symbols := by
  have brace : ' ' ∉ "\x7b\n".toList := by decide
  have words := pieces_spaced_append (not_mem_of_mem_headerWords table.size)
    ("\x7b\n".toList ++ (entryLines symbols ++ "\x7d;\n".toList))
  rw [← text_eq_spaced entries] at words
  have body : (Text.pieces ' ' (text table)).drop 10 =
      Text.pieces ' ' ("\x7b\n".toList ++ (entryLines symbols ++ "\x7d;\n".toList)) := by
    rw [words]
    rfl
  rw [decode, body]
  exact symbolsOfPieces?_entryLines spaceless brace

end Fragment

end KernelSymbols
