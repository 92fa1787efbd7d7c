import KernelSymbols.Proofs.Decoding
import KernelSymbols.Proofs.Stream
import KernelSymbols.Sink

set_option autoImplicit false

namespace KernelSymbols

inductive Step
  | addLine (line : Text)
  | read (chunks : List Chunk)
  | write (sink : Sink)
deriving DecidableEq, Repr

def Step.lines : Step → List Bytes
  | .addLine line => [Utf8.encode line]
  | .read chunks => Chunk.lines chunks
  | .write _ => []

namespace Collector

open Listing

variable (excludes : Text → Bool)

def step (collector : Collector) : Step → Collector × Outcome
  | .addLine line => collector.addLine excludes line
  | .read chunks => collector.read excludes chunks
  | .write sink =>
      (collector,
        (sink.writeTable collector.table).2.mapError fun error => .stream error.message)

def run (collector : Collector) (steps : List Step) : Collector :=
  steps.foldl (fun collector step => (collector.step excludes step).1) collector

-- The symbols of the lines that each step gives before its first fatal one.
def retained (steps : List Step) : List Symbol :=
  steps.flatMap fun step => symbols excludes (accepted excludes step.lines)

theorem table_step (collector : Collector) (step : Step) :
    (collector.step excludes step).1.table =
      collector.table.pushAll (symbols excludes (accepted excludes step.lines)) := by
  cases step with
  | addLine line =>
      have single := table_addAll excludes collector [Utf8.encode line]
      rwa [addAll_singleton, addBytes_encode] at single
  | read chunks =>
      rw [step, fst_read]
      exact table_addAll excludes collector (Chunk.lines chunks)
  | write sink => rfl

theorem table_run (collector : Collector) (steps : List Step) :
    (collector.run excludes steps).table =
      collector.table.pushAll (retained excludes steps) := by
  rw [run, retained]
  induction steps generalizing collector with
  | nil => rfl
  | cons step rest ih =>
      rw [List.foldl_cons, ih, table_step, ← SymbolTable.pushAll_append, List.flatMap_cons]

end Collector

namespace Listing

variable {excludes : Text → Bool} {line : Bytes} {symbol : Symbol}

theorem spaceless_of_symbol? (h : symbol? excludes line = some symbol) : symbol.Spaceless := by
  obtain ⟨text, -, split, -⟩ := text_of_symbol? excludes h
  obtain ⟨-, complete, -, -, kind⟩ := Fields.ofLine?_eq_some_iff.mp split
  have name : ' ' ∉ symbol.name := complete.2.2.2.2
  refine ⟨?_, name⟩
  intro space
  simp [Symbol.fields, space] at kind

theorem lineFeed_not_mem_of_symbol? (h : symbol? excludes line = some symbol)
    (whole : lineFeed ∉ line) : '\n' ∉ symbol.fields.line := by
  obtain ⟨text, decoded, split, -⟩ := text_of_symbol? excludes h
  obtain ⟨spelled, -⟩ := Fields.ofLine?_eq_some_iff.mp split
  have small : lineFeed.toNat < 0x80 := by decide
  rw [Utf8.decode_eq_some_iff.mp decoded, Utf8.mem_encode_iff small] at whole
  rw [← spelled]
  intro member
  exact whole ((Text.trim_infix text).mem member)

end Listing

theorem Collector.spaceless_of_mem_retained {excludes : Text → Bool} {steps : List Step}
    {symbol : Symbol} (member : symbol ∈ retained excludes steps) : symbol.Spaceless := by
  obtain ⟨step, -, member⟩ := List.mem_flatMap.mp member
  obtain ⟨line, -, h⟩ := List.mem_filterMap.mp member
  exact Listing.spaceless_of_symbol? h

theorem Sink.writeTable_unbounded (table : SymbolTable) :
    (({} : Sink).writeTable table).1.held = Utf8.encode (Fragment.text table) := by
  have room : ({} : Sink).HasRoom ((Fragment.pieces table).map Utf8.encode).flatten := by
    intro limit bounded
    cases bounded
  rw [writeTable, write_of_room room, ← Utf8.encode_flatten, ← Fragment.text]
  rfl

namespace Collector

def written (collector : Collector) : Bytes := (({} : Sink).writeTable collector.table).1.held

theorem written_determines_retained :
    (∀ (excludes : Text → Bool) (steps : List Step),
      (({} : Collector).run excludes steps).table.toList =
          (retained excludes steps).map Symbol.initializer ∧
        (Utf8.decode (({} : Collector).run excludes steps).written).bind Fragment.decode =
          some (retained excludes steps)) ∧
    ∀ (excludes others : Text → Bool) (steps following : List Step),
      (({} : Collector).run excludes steps).written =
          (({} : Collector).run others following).written ↔
        retained excludes steps = retained others following := by
  have entries (excludes : Text → Bool) (steps : List Step) :
      (({} : Collector).run excludes steps).table.toList =
        (retained excludes steps).map Symbol.initializer := by
    simp [table_run]
  have read (excludes : Text → Bool) (steps : List Step) :
      (Utf8.decode (({} : Collector).run excludes steps).written).bind Fragment.decode =
        some (retained excludes steps) := by
    rw [written, Sink.writeTable_unbounded, Utf8.decode_encode, Option.bind_some]
    exact Fragment.decode_text (entries excludes steps)
      fun symbol member => spaceless_of_mem_retained member
  refine ⟨fun excludes steps => ⟨entries excludes steps, read excludes steps⟩, ?_⟩
  intro excludes others steps following
  constructor
  · intro same
    have left := read excludes steps
    rw [same, read others following] at left
    exact (Option.some.inj left).symm
  · intro same
    simp only [written, table_run, same]

end Collector

end KernelSymbols
