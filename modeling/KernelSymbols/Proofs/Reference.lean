import KernelSymbols.Generation
import KernelSymbols.Proofs.Accumulation

set_option autoImplicit false

namespace KernelSymbols

def Fields.entry (fields : Fields) : Text :=
  "    \x7b 0x".toList ++ fields.address ++ "ul, 0x".toList ++ fields.size ++ ", '".toList ++
    fields.kind ++ "', \"".toList ++ fields.name ++ "\" \x7d,\n".toList

theorem Symbol.entry_fields (symbol : Symbol) :
    symbol.fields.entry = Fragment.entryLine symbol.initializer ++ ['\n'] := by
  have opening : "    \x7b 0x".toList = "    ".toList ++ "\x7b 0x".toList := by decide
  have closing : "\" \x7d,\n".toList = "\" \x7d".toList ++ ",".toList ++ ['\n'] := by
    decide
  unfold Fields.entry Fragment.entryLine Symbol.initializer Symbol.fields
  simp only [opening, closing, List.append_assoc, List.cons_append, List.nil_append]

namespace Listing

def fragment (entries : List Fields) : Text :=
  "#include <kern/symbols.h>\n".toList ++
    "int symbol_table_size __symtab = ".toList ++ Text.decimal entries.length ++ ";\n".toList ++
    "struct symbol symbol_table[] __symtab = \x7b\n".toList ++
    entries.flatMap Fields.entry ++ "\x7d;\n".toList

theorem text_pushAll (symbols : List Symbol) :
    Fragment.text (({} : SymbolTable).pushAll symbols) =
      fragment (symbols.map Symbol.fields) := by
  have entries : (({} : SymbolTable).pushAll symbols).toList =
      symbols.map Symbol.initializer := by simp
  have size : (({} : SymbolTable).pushAll symbols).size = symbols.length := by
    rw [← SymbolTable.length_toList, entries, List.length_map]
  have header : "#include <kern/symbols.h>\n".toList = Fragment.headerLine ++ ['\n'] := by
    decide
  have ending : ";\n".toList = ";".toList ++ ['\n'] := by decide
  have opening : "struct symbol symbol_table[] __symtab = \x7b\n".toList =
      Fragment.openingLine ++ ['\n'] := by
    decide
  have closing : "\x7d;\n".toList = Fragment.closingLine ++ ['\n'] := by decide
  rw [Fragment.text_eq]
  unfold fragment Fragment.sizeLine
  simp only [entries, size, header, ending, opening, closing, List.length_map, List.flatMap_map,
    Symbol.entry_fields, List.append_assoc, List.cons_append, List.nil_append]

end Listing

namespace Generation

open Listing

variable (excludes : Text → Bool)

def reference (bytes : Bytes) : Generation :=
  let lines := Listing.lines bytes
  match lines.find? (isFatal excludes) with
  | none =>
      { outcome := .ok ()
        output := fragment (lines.filterMap (kept? excludes))
        tally := counts excludes lines }
  | some line =>
      let before := lines.findIdx (isFatal excludes)
      { outcome := .error (report excludes (before + 1) line)
        output := []
        tally :=
          { counts excludes (lines.take before) with
            lines := if (Utf8.decode line).isSome then before + 1 else before } }

theorem ofBytes_eq_reference (bytes : Bytes) :
    ofBytes excludes bytes = reference excludes bytes := by
  rw [ofBytes, Collector.readBytes_eq_addAll, reference]
  dsimp only
  generalize Listing.lines bytes = lines
  rcases sound_or_fatal excludes lines with sound | ⟨before, line, after, rfl, sound, fatal⟩
  · have found : lines.find? (isFatal excludes) = none := by
      apply List.find?_eq_none.mpr
      simpa [Sound] using sound
    rw [found, Collector.addAll_of_sound excludes sound, filterMap_kept? excludes sound,
      ← text_pushAll]
    simp [ofCollector, Collector.withLines, symbols]
  · have found : (before ++ line :: after).find? (isFatal excludes) = some line := by
      apply List.find?_eq_some_iff_append.mpr
      exact ⟨fatal, before, after, rfl, by simpa [Sound] using sound⟩
    have index : (before ++ line :: after).findIdx (isFatal excludes) = before.length := by
      rw [List.findIdx_append, List.findIdx_eq_length.mpr sound]
      simp [List.findIdx_cons, fatal]
    rw [found, index, Collector.addAll_of_fatal excludes sound fatal, List.take_left]
    cases decoded : Utf8.decode line <;>
      simp [ofCollector, Collector.spoil, Collector.withLines, Collector.countLine, decoded,
        counts]

theorem outcome_eq_ok_iff {bytes : Bytes} :
    (ofBytes excludes bytes).outcome = .ok () ↔ Sound excludes (Listing.lines bytes) := by
  rw [← Collector.snd_addAll_eq_ok_iff excludes, ofBytes, Collector.readBytes_eq_addAll]
  rcases Collector.addAll excludes {} (Listing.lines bytes) with ⟨collector, (error | _)⟩ <;> rfl

theorem ofBytes_of_sound {bytes : Bytes} (sound : Sound excludes (Listing.lines bytes)) :
    ofBytes excludes bytes =
      { outcome := .ok ()
        output := fragment ((Listing.lines bytes).filterMap (kept? excludes))
        tally := counts excludes (Listing.lines bytes) } := by
  rw [ofBytes, Collector.readBytes_eq_addAll, Collector.addAll_of_sound excludes sound,
    filterMap_kept? excludes sound, ← text_pushAll]
  simp [ofCollector, Collector.withLines]

theorem ofBytes_of_fatal {bytes : Bytes} {before after : List Bytes} {line : Bytes}
    (split : Listing.lines bytes = before ++ line :: after) (sound : Sound excludes before)
    (fatal : isFatal excludes line = true) :
    ofBytes excludes bytes =
      { outcome := .error (report excludes (before.length + 1) line)
        output := []
        tally := ((({} : Collector).withLines excludes before).spoil line).tally } := by
  rw [ofBytes, Collector.readBytes_eq_addAll, split,
    Collector.addAll_of_fatal excludes sound fatal]
  simp [ofCollector]

end Generation

end KernelSymbols
