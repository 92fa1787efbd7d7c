import KernelSymbols.Proofs.Growth
import KernelSymbols.Proofs.Reference

set_option autoImplicit false

namespace KernelSymbols

def Symbol.listingLine (symbol : Symbol) : Bytes := Utf8.encode symbol.fields.line

theorem Symbol.fits_fields (symbol : Symbol) : symbol.fields.fits = true := by
  simp [Fields.fits, fields, symbol.address_digits, symbol.size_digits]

namespace Listing

def canonical (records : List Symbol) : Bytes := ofLines (records.map Symbol.listingLine)

variable {excludes : Text → Bool}

-- A symbol that is read back from its own line.
structure Respelled (excludes : Text → Bool) (symbol : Symbol) : Prop where
  kept : kept? excludes symbol.listingLine = some symbol.fields
  unbroken : lineFeed ∉ symbol.listingLine

theorem respelled_of_symbol? {line : Bytes} {symbol : Symbol}
    (found : symbol? excludes line = some symbol) (whole : lineFeed ∉ line) :
    Respelled excludes symbol := by
  constructor
  · obtain ⟨text, -, split, included⟩ := text_of_symbol? excludes found
    obtain ⟨spelled, spaces⟩ := Fields.ofLine?_eq_some_iff.mp split
    have trimmed : Text.trim symbol.fields.line = symbol.fields.line := by
      rw [← spelled, Text.trim_trim]
    have again : fields? symbol.listingLine = some symbol.fields :=
      (fields?_of_decode (Utf8.decode_encode _)).trans
        (Fields.ofLine?_eq_some_iff.mpr ⟨trimmed, spaces⟩)
    simp [kept?, again, Symbol.fields, included]
  · have small : lineFeed.toNat < 0x80 := by decide
    rw [Symbol.listingLine, Utf8.mem_encode_iff small]
    exact lineFeed_not_mem_of_symbol? found whole

theorem respelled_of_mem_symbols {bytes : Bytes} {symbol : Symbol}
    (member : symbol ∈ symbols excludes (lines bytes)) : Respelled excludes symbol := by
  obtain ⟨line, given, found⟩ := List.mem_filterMap.mp member
  exact respelled_of_symbol? found (not_mem_of_mem_lines given)

theorem lines_canonical {records : List Symbol}
    (respelled : ∀ symbol ∈ records, Respelled excludes symbol) :
    lines (canonical records) = records.map Symbol.listingLine := by
  apply lines_ofLines
  intro line member
  obtain ⟨symbol, given, rfl⟩ := List.mem_map.mp member
  exact (respelled symbol given).unbroken

theorem sound_canonical {records : List Symbol}
    (respelled : ∀ symbol ∈ records, Respelled excludes symbol) :
    Sound excludes (records.map Symbol.listingLine) := by
  intro line member
  obtain ⟨symbol, given, rfl⟩ := List.mem_map.mp member
  have decoded : Utf8.decode symbol.listingLine = some symbol.fields.line := Utf8.decode_encode _
  simp [isFatal, decoded, (respelled symbol given).kept, Symbol.fits_fields]

theorem filterMap_kept?_canonical {records : List Symbol}
    (respelled : ∀ symbol ∈ records, Respelled excludes symbol) :
    (records.map Symbol.listingLine).filterMap (kept? excludes) = records.map Symbol.fields := by
  rw [List.filterMap_map, ← List.filterMap_eq_map]
  apply List.filterMap_congr
  intro symbol given
  exact (respelled symbol given).kept

theorem counts_canonical {records : List Symbol}
    (respelled : ∀ symbol ∈ records, Respelled excludes symbol) :
    counts excludes (records.map Symbol.listingLine) =
      { lines := records.length, retained := records.length } := by
  have balance := Collector.balance_counts excludes (sound_canonical respelled)
  simp only [counts, filterMap_kept?_canonical respelled, List.length_map] at balance ⊢
  simp only [Tally.mk.injEq, true_and]
  omega

end Listing

namespace Generation

open Listing

variable {excludes : Text → Bool}

theorem decode_output {bytes : Bytes} (sound : Sound excludes (Listing.lines bytes)) :
    Fragment.decode (ofBytes excludes bytes).output =
      some (symbols excludes (Listing.lines bytes)) := by
  rw [ofBytes_of_sound excludes sound, filterMap_kept? excludes sound, ← text_pushAll]
  apply Fragment.decode_text
  · simp
  · intro symbol member
    obtain ⟨line, -, found⟩ := List.mem_filterMap.mp member
    exact spaceless_of_symbol? found

theorem ofBytes_canonical {bytes : Bytes}
    (accepted : (ofBytes excludes bytes).outcome = .ok ()) :
    let first := ofBytes excludes bytes
    let records := symbols excludes (Listing.lines bytes)
    let second := ofBytes excludes (canonical records)
    Fragment.decode first.output = some records ∧ first.tally.retained = records.length ∧
      second.outcome = .ok () ∧ second.output = first.output ∧
      second.tally =
        { lines := records.length, retained := records.length, malformed := 0, excluded := 0 } := by
  intro first records second
  have sound := (outcome_eq_ok_iff excludes).mp accepted
  have respelled : ∀ symbol ∈ records, Respelled excludes symbol :=
    fun symbol member => respelled_of_mem_symbols member
  have kept : (Listing.lines bytes).filterMap (kept? excludes) = records.map Symbol.fields :=
    filterMap_kept? excludes sound
  have cut := lines_canonical respelled
  have once : first = _ := ofBytes_of_sound excludes sound
  have again : second = _ := ofBytes_of_sound excludes (cut.symm ▸ sound_canonical respelled)
  refine ⟨decode_output sound, ?_, ?_⟩
  · simp [once, counts, kept]
  · rw [once, again, cut, counts_canonical respelled, filterMap_kept?_canonical respelled, kept]
    exact ⟨rfl, rfl, rfl⟩

-- Here the kind is a tab, and the name begins with a space that is none of the separators.
theorem ofBytes_canonical_of_padded :
    let excludes : Text → Bool := fun name => name == "skip".toList
    let bytes := Utf8.encode "\t0A 2 \t \u3000x\t\"\r\nno symbol\nzz 2 T skip".toList
    let first := ofBytes excludes bytes
    let records := symbols excludes (Listing.lines bytes)
    let second := ofBytes excludes (canonical records)
    first.outcome = .ok () ∧ canonical records = Utf8.encode "0A 2 \t \u3000x\t\"\n".toList ∧
      second.outcome = .ok () ∧ second.output = first.output ∧
      second.tally = { lines := 1, retained := 1, malformed := 0, excluded := 0 } := by
  intro excludes bytes first records second
  have accepted : first.outcome = .ok () := by decide +kernel
  have spelled : canonical records = Utf8.encode "0A 2 \t \u3000x\t\"\n".toList := by decide +kernel
  have single : records.length = 1 := by decide +kernel
  obtain ⟨-, -, read, same, tally⟩ := ofBytes_canonical accepted
  exact ⟨accepted, spelled, read, same, by rw [tally, single]⟩

end Generation

end KernelSymbols
