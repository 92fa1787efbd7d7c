import KernelSymbols.Collector
import KernelSymbols.Listing.Lines

set_option autoImplicit false

namespace KernelSymbols

inductive Chunk
  | data (bytes : Bytes)
  | interrupted
  | failure (message : Text)
deriving DecidableEq, Repr

namespace Chunk

def payload : Chunk → Bytes
  | .data bytes => bytes
  | _ => []

def fails : Chunk → Bool
  | .failure _ => true
  | _ => false

def gather : List Chunk → Except Text Bytes
  | [] => .ok []
  | .data bytes :: rest => (gather rest).map (bytes ++ ·)
  | .interrupted :: rest => gather rest
  | .failure message :: _ => .error message

end Chunk

inductive Reader
  -- `begun` holds the line begun, its last byte first.
  | reading (collector : Collector) (begun : Bytes)
  | stopped (collector : Collector) (error : ListingError)
deriving DecidableEq, Repr

namespace Reader

variable (excludes : Text → Bool)

def begin (collector : Collector) : Reader := .reading collector []

def ofOutcome : Collector × Outcome → Reader
  | (collector, .ok ()) => .reading collector []
  | (collector, .error error) => .stopped collector error

def takeByte : Reader → UInt8 → Reader
  | .reading collector begun, byte =>
      if byte = lineFeed then ofOutcome (collector.addBytes excludes begun.reverse)
      else .reading collector (byte :: begun)
  | .stopped collector error, _ => .stopped collector error

def takeBytes (reader : Reader) (bytes : Bytes) : Reader :=
  bytes.foldl (takeByte excludes) reader

def takeChunk (reader : Reader) : Chunk → Reader
  | .data bytes => reader.takeBytes excludes bytes
  | .interrupted => reader
  | .failure message =>
      match reader with
      | .reading collector _ => .stopped collector (.stream message)
      | .stopped collector error => .stopped collector error

def finish : Reader → Collector × Outcome
  | .reading collector [] => (collector, .ok ())
  | .reading collector begun => collector.addBytes excludes begun.reverse
  | .stopped collector error => (collector, .error error)

theorem takeBytes_append (reader : Reader) (left right : Bytes) :
    reader.takeBytes excludes (left ++ right) =
      (reader.takeBytes excludes left).takeBytes excludes right :=
  List.foldl_append

theorem takeBytes_stopped (collector : Collector) (error : ListingError) (bytes : Bytes) :
    (stopped collector error).takeBytes excludes bytes = .stopped collector error := by
  induction bytes with
  | nil => rfl
  | cons byte rest ih => exact ih

theorem foldl_takeChunk_stopped (collector : Collector) (error : ListingError)
    (chunks : List Chunk) :
    chunks.foldl (takeChunk excludes) (.stopped collector error) = .stopped collector error := by
  induction chunks with
  | nil => rfl
  | cons chunk rest ih =>
      rw [List.foldl_cons]
      cases chunk with
      | data bytes => simpa [takeChunk, takeBytes_stopped] using ih
      | interrupted => exact ih
      | failure message => exact ih

theorem foldl_takeChunk {chunks : List Chunk} (delivered : ∀ c ∈ chunks, c.fails = false)
    (reader : Reader) :
    chunks.foldl (takeChunk excludes) reader =
      reader.takeBytes excludes (chunks.flatMap Chunk.payload) := by
  induction chunks generalizing reader with
  | nil => rfl
  | cons chunk rest ih =>
      have tail := ih fun c h => delivered c (List.mem_cons_of_mem _ h)
      rw [List.foldl_cons, tail, List.flatMap_cons, takeBytes_append]
      cases chunk with
      | data bytes => rfl
      | interrupted => rfl
      | failure message => simp [Chunk.fails] at delivered

theorem takeBytes_reading {bytes : Bytes} (h : lineFeed ∉ bytes) (collector : Collector)
    (begun : Bytes) :
    (reading collector begun).takeBytes excludes bytes =
      .reading collector (bytes.reverse ++ begun) := by
  induction bytes generalizing begun with
  | nil => rfl
  | cons byte rest ih =>
      simp only [List.mem_cons, not_or] at h
      have step : (reading collector begun).takeByte excludes byte =
          .reading collector (byte :: begun) := by
        simp [takeByte, Ne.symm h.1]
      have next := ih h.2 (byte :: begun)
      simpa [takeBytes, step] using next

theorem takeBytes_line {line : Bytes} (h : lineFeed ∉ line) (collector : Collector)
    (rest : Bytes) :
    (begin collector).takeBytes excludes (line ++ lineFeed :: rest) =
      (ofOutcome (collector.addBytes excludes line)).takeBytes excludes rest := by
  rw [takeBytes_append, begin, takeBytes_reading excludes h]
  simp [takeBytes, takeByte]

theorem finish_takeBytes_of_not_mem {line : Bytes} (h : lineFeed ∉ line) (nonempty : line ≠ [])
    (collector : Collector) :
    ((begin collector).takeBytes excludes line).finish excludes =
      collector.addBytes excludes line := by
  rw [begin, takeBytes_reading excludes h, List.append_nil]
  cases hr : line.reverse with
  | nil => exact absurd (List.reverse_eq_nil_iff.mp hr) nonempty
  | cons last before => rw [finish, ← hr, List.reverse_reverse]; simp

theorem finish_takeBytes (collector : Collector) (bytes : Bytes) :
    ((begin collector).takeBytes excludes bytes).finish excludes =
      collector.addAll excludes (Listing.lines bytes) := by
  induction bytes using Listing.lines_induction generalizing collector with
  | nil => rfl
  | last line unbroken nonempty =>
      rw [finish_takeBytes_of_not_mem excludes unbroken nonempty,
        Listing.lines_of_not_mem unbroken nonempty, Collector.addAll]
      rcases collector.addBytes excludes line with ⟨collector, (error | _)⟩ <;> rfl
  | ended line rest unbroken ih =>
      rw [takeBytes_line excludes unbroken, Listing.lines_line_append unbroken, Collector.addAll]
      rcases collector.addBytes excludes line with ⟨collector, (error | _)⟩
      · rw [ofOutcome, takeBytes_stopped]
        rfl
      · exact ih collector

end Reader

namespace Collector

variable (excludes : Text → Bool)

def read (collector : Collector) (chunks : List Chunk) : Collector × Outcome :=
  (chunks.foldl (Reader.takeChunk excludes) (Reader.begin collector)).finish excludes

def readBytes (collector : Collector) (bytes : Bytes) : Collector × Outcome :=
  collector.read excludes [.data bytes]

theorem readBytes_eq_addAll (collector : Collector) (bytes : Bytes) :
    collector.readBytes excludes bytes = collector.addAll excludes (Listing.lines bytes) :=
  Reader.finish_takeBytes excludes collector bytes

theorem read_eq_addAll {chunks : List Chunk} (delivered : ∀ c ∈ chunks, c.fails = false)
    (collector : Collector) :
    collector.read excludes chunks =
      collector.addAll excludes (Listing.lines (chunks.flatMap Chunk.payload)) := by
  rw [read, Reader.foldl_takeChunk excludes delivered, Reader.finish_takeBytes]

end Collector

end KernelSymbols
