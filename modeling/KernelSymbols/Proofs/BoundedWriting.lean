import KernelSymbols.Proofs.Reference
import KernelSymbols.Sink

set_option autoImplicit false

namespace KernelSymbols.Sink

theorem held_write (sink : Sink) (pieces : List Bytes) :
    (sink.write pieces).1.held = sink.held ++ sink.fitting pieces.flatten := by
  by_cases room : sink.HasRoom pieces.flatten
  · rw [write_of_room room, fitting_eq_self_iff.mpr room]
  · rw [write_of_no_room room]

def outcome (result : Except SinkError Unit) : Outcome :=
  result.mapError fun error => .stream error.message

theorem outcome_ok : outcome (.ok ()) = .ok () := rfl

theorem outcome_error (error : SinkError) :
    outcome (.error error) = .error (.stream error.message) := rfl

def fresh (limit : Option Nat) (refusal : Refusal) (flushFails : Bool) : Sink :=
  { limit, refusal, flushFails }

section Fresh

variable {limit : Option Nat} (refusal : Refusal) (flushFails : Bool) {pieces : List Bytes}
  {text : Bytes}

theorem write_fresh_of_le (joined : pieces.flatten = text)
    (room : ∀ most ∈ limit, text.length ≤ most) :
    (fresh limit refusal flushFails).write pieces =
      ({ fresh limit refusal flushFails with held := text, flushes := 1 },
        if flushFails then .error .flush else .ok ()) := by
  have whole : (fresh limit refusal flushFails).HasRoom pieces.flatten := by
    rw [joined]
    exact room
  rw [write_of_room whole, joined]
  rfl

theorem fitting_fresh (text : Bytes) :
    (fresh limit refusal flushFails).fitting text =
      text.take (limit.elim text.length (min · text.length)) := by
  cases limit with
  | none => exact List.take_length.symm
  | some most => exact List.take_eq_take_min

theorem write_fresh_of_lt (joined : pieces.flatten = text) {most : Nat} (bounded : most ∈ limit)
    (excess : most < text.length) :
    (fresh limit refusal flushFails).write pieces =
      ({ fresh limit refusal flushFails with held := text.take most }, .error refusal.cause) := by
  have short : ¬ (fresh limit refusal flushFails).HasRoom pieces.flatten := by
    rw [joined]
    exact fun room => absurd (room most bounded) (Nat.not_le_of_lt excess)
  obtain rfl : limit = some most := bounded
  rw [write_of_no_room short, joined]
  rfl

end Fresh

theorem flatten_pieces_pushAll (symbols : List Symbol) :
    ((Fragment.pieces (({} : SymbolTable).pushAll symbols)).map Utf8.encode).flatten =
      Utf8.encode (Listing.fragment (symbols.map Symbol.fields)) := by
  rw [← Utf8.encode_flatten, ← Fragment.text, Listing.text_pushAll]

theorem writeTable_bounded (symbols : List Symbol) (limit : Option Nat) (refusal : Refusal)
    (flushFails : Bool) :
    let text := Utf8.encode (Listing.fragment (symbols.map Symbol.fields))
    let sink := fresh limit refusal flushFails
    let written := sink.writeTable (({} : SymbolTable).pushAll symbols)
    written.1.held = text.take (limit.elim text.length (min · text.length)) ∧
      (∀ most ∈ limit, most < text.length → written.1.flushes = 0 ∧
        outcome written.2 = .error (.stream (match refusal with
          | .error => "sink full".toList
          | .silence => "failed to write whole buffer".toList))) ∧
      ((∀ most ∈ limit, text.length ≤ most) → written.1.flushes = 1 ∧
        outcome written.2 = if flushFails then .error (.stream "flush failed".toList) else .ok ()) ∧
      (outcome written.2 = .ok () ↔
        written.1.held = text ∧ written.1.flushes = 1 ∧ flushFails = false) ∧
      ∀ fragments : List Bytes, fragments.flatten = text → sink.deliver fragments = written := by
  intro text sink written
  have joined := flatten_pieces_pushAll symbols
  have excessive {most : Nat} (bounded : most ∈ limit) (excess : most < text.length) :
      written = ({ sink with held := text.take most }, .error refusal.cause) :=
    write_fresh_of_lt refusal flushFails joined bounded excess
  have fitting (room : ∀ most ∈ limit, text.length ≤ most) :
      written = ({ sink with held := text, flushes := 1 },
        if flushFails then .error .flush else .ok ()) :=
    write_fresh_of_le refusal flushFails joined room
  refine ⟨?_, ?_, ?_, ?_, ?_⟩
  · have held := held_write sink
      ((Fragment.pieces (({} : SymbolTable).pushAll symbols)).map Utf8.encode)
    rwa [joined, fitting_fresh] at held
  · intro most bounded excess
    rw [excessive bounded excess]
    exact ⟨rfl, by cases refusal <;> rfl⟩
  · intro room
    rw [fitting room]
    exact ⟨rfl, by cases flushFails <;> rfl⟩
  · by_cases room : ∀ most ∈ limit, text.length ≤ most
    · rw [fitting room]
      cases flushFails <;> simp [outcome_ok, outcome_error]
    · obtain ⟨most, bounded, excess⟩ : ∃ most ∈ limit, most < text.length := by
        simpa using room
      rw [excessive bounded excess]
      simp [outcome_error, sink, fresh]
  · intro fragments same
    exact (deliver_congr sink (same.trans joined.symm)).trans (deliver_eq_write sink _)

-- Here the room ends inside a letter or just behind the text, whose bytes come one by one.
theorem writeTable_bounded_in_letter :
    let symbols : List Symbol := [⟨['1'], ['2'], 'T', ['é'], by decide, by decide⟩]
    let text := Utf8.encode (Listing.fragment (symbols.map Symbol.fields))
    let table := ({} : SymbolTable).pushAll symbols
    let short := fresh (some 129) .silence true
    let ample := fresh (some 138) .error true
    129 < text.length ∧ text.length ≤ 138 ∧ (text.map ([·])).flatten = text ∧
      (short.writeTable table).1.held = text.take 129 ∧ (short.writeTable table).1.flushes = 0 ∧
      outcome (short.writeTable table).2 =
        .error (.stream "failed to write whole buffer".toList) ∧
      short.deliver (text.map ([·])) = short.writeTable table ∧
      (ample.writeTable table).1.held = text ∧ (ample.writeTable table).1.flushes = 1 ∧
      outcome (ample.writeTable table).2 = .error (.stream "flush failed".toList) := by
  intro symbols text table short ample
  have length : text.length = 138 := by decide +kernel
  have exceeds : 129 < text.length := by omega
  have fits : text.length ≤ 138 := Nat.le_of_eq length
  have bytes : (text.map ([·])).flatten = text := by
    rw [← List.flatMap_def, List.flatMap_singleton']
  obtain ⟨part, excessive, -, -, cut⟩ := writeTable_bounded symbols (some 129) .silence true
  obtain ⟨whole, -, fitting, -, -⟩ := writeTable_bounded symbols (some 138) .error true
  obtain ⟨unflushed, refused⟩ := excessive 129 rfl exceeds
  obtain ⟨flushed, failed⟩ := fitting fun most bounded => Option.some.inj bounded ▸ fits
  rw [Option.elim_some, Nat.min_eq_left (Nat.le_of_lt exceeds)] at part
  rw [Option.elim_some, List.take_of_length_le (Nat.le_min.mpr ⟨fits, Nat.le_refl _⟩)] at whole
  simp only [table, short, ample]
  exact ⟨exceeds, fits, bytes, part, unflushed, refused, cut _ bytes, whole, flushed, failed⟩

end KernelSymbols.Sink
