import KernelSymbols.Reader
import KernelSymbols.Proofs.Accumulation
import Mathlib.Data.List.DropRight

set_option autoImplicit false

namespace KernelSymbols

namespace Listing

def EndsLine (bytes : Bytes) : Prop := bytes = [] ∨ bytes.getLast? = some lineFeed

def complete (bytes : Bytes) : Bytes := bytes.rdropWhile (· != lineFeed)

def begun (bytes : Bytes) : Bytes := bytes.rtakeWhile (· != lineFeed)

theorem complete_append_begun (bytes : Bytes) : complete bytes ++ begun bytes = bytes :=
  List.rdropWhile_append_rtakeWhile

theorem not_mem_begun (bytes : Bytes) : lineFeed ∉ begun bytes := by
  intro member
  have passes := List.mem_rtakeWhile_imp member
  simp at passes

theorem endsLine_complete (bytes : Bytes) : EndsLine (complete bytes) := by
  by_cases empty : complete bytes = []
  · exact Or.inl empty
  · right
    have last := List.rdropWhile_last_not (· != lineFeed) bytes empty
    rw [List.getLast?_eq_some_getLast empty]
    simpa [complete] using last

structure IsCompletePart (part bytes : Bytes) : Prop where
  isPrefix : part <+: bytes
  endsLine : EndsLine part
  longest : ∀ other, other <+: bytes → EndsLine other → other.length ≤ part.length

theorem isCompletePart_complete (bytes : Bytes) : IsCompletePart (complete bytes) bytes where
  isPrefix := ⟨begun bytes, complete_append_begun bytes⟩
  endsLine := endsLine_complete bytes
  longest := by
    intro other start ends
    by_contra longer
    -- The end of a longer part lies in the line begun, where there is no line feed.
    obtain ⟨middle, rfl⟩ := List.prefix_of_prefix_length_le
      ⟨begun bytes, complete_append_begun bytes⟩ start (by omega)
    obtain ⟨rest, whole⟩ := start
    have same : complete bytes ++ (middle ++ rest) = complete bytes ++ begun bytes := by
      rw [← List.append_assoc, whole, complete_append_begun]
    have inside := List.append_cancel_left same
    have nonempty : middle ≠ [] := by
      intro empty
      simp [empty] at longer
    rcases ends with empty | last
    · simp [nonempty] at empty
    · rw [List.getLast?_append_of_ne_nil _ nonempty] at last
      apply not_mem_begun bytes
      rw [← inside]
      exact List.mem_append_left rest (List.mem_of_getLast? last)

theorem EndsLine.of_append {left right : Bytes} (ends : EndsLine (left ++ right)) :
    EndsLine right := by
  by_cases empty : right = []
  · exact Or.inl empty
  · right
    rcases ends with both | last
    · simp [empty] at both
    · rwa [List.getLast?_append_of_ne_nil _ empty] at last

theorem EndsLine.mem {bytes : Bytes} (ends : EndsLine bytes) (nonempty : bytes ≠ []) :
    lineFeed ∈ bytes := by
  rcases ends with empty | last
  · exact absurd empty nonempty
  · exact List.mem_of_getLast? last

theorem EndsLine.ofLines_lines {bytes : Bytes} (ends : EndsLine bytes) :
    ofLines (lines bytes) = bytes := by
  induction bytes using lines_induction with
  | nil => rfl
  | last line unbroken nonempty => exact absurd (ends.mem nonempty) unbroken
  | ended line rest unbroken ih =>
      have later : EndsLine (line ++ [lineFeed] ++ rest) := by simpa using ends
      rw [lines_line_append unbroken, ofLines_cons, ih later.of_append]

theorem lines_append {left : Bytes} (ends : EndsLine left) (right : Bytes) :
    lines (left ++ right) = lines left ++ lines right := by
  have unbroken : ∀ line ∈ lines left, lineFeed ∉ line := fun _ => not_mem_of_mem_lines
  conv => lhs; rw [← ends.ofLines_lines]
  exact lines_ofLines_append unbroken right

end Listing

namespace Reader

open Listing

variable (excludes : Text → Bool)

theorem takeBytes_ofOutcome (result : Collector × Outcome) (bytes : Bytes) :
    (ofOutcome result).takeBytes excludes bytes =
      match result with
      | (collector, .ok ()) => (begin collector).takeBytes excludes bytes
      | (collector, .error error) => .stopped collector error := by
  rcases result with ⟨collector, (error | _)⟩
  · exact takeBytes_stopped excludes collector error bytes
  · rfl

theorem takeBytes_ofLines (collector : Collector) {parts : List Bytes}
    (unbroken : ∀ line ∈ parts, lineFeed ∉ line) :
    (begin collector).takeBytes excludes (ofLines parts) =
      ofOutcome (collector.addAll excludes parts) := by
  induction parts generalizing collector with
  | nil => rfl
  | cons line rest ih =>
      obtain ⟨first, others⟩ := List.forall_mem_cons.mp unbroken
      rw [ofLines_cons, takeBytes_line excludes first, Collector.addAll, takeBytes_ofOutcome]
      rcases collector.addBytes excludes line with ⟨next, (error | _)⟩
      · rfl
      · exact ih next others

theorem takeBytes_of_endsLine (collector : Collector) {bytes : Bytes} (ends : EndsLine bytes) :
    (begin collector).takeBytes excludes bytes =
      ofOutcome (collector.addAll excludes (lines bytes)) := by
  have unbroken : ∀ line ∈ lines bytes, lineFeed ∉ line := fun _ => not_mem_of_mem_lines
  have taken := takeBytes_ofLines excludes collector unbroken
  rwa [ends.ofLines_lines] at taken

theorem takeBytes_begin (collector : Collector) (bytes : Bytes) :
    (begin collector).takeBytes excludes bytes =
      match collector.addAll excludes (lines (complete bytes)) with
      | (collector, .ok ()) => .reading collector (begun bytes).reverse
      | (collector, .error error) => .stopped collector error := by
  have whole := complete_append_begun bytes
  have split : (begin collector).takeBytes excludes bytes =
      ((begin collector).takeBytes excludes (complete bytes)).takeBytes excludes (begun bytes) := by
    rw [← takeBytes_append, whole]
  rw [split, takeBytes_of_endsLine excludes collector (endsLine_complete bytes),
    takeBytes_ofOutcome]
  rcases collector.addAll excludes (lines (complete bytes)) with ⟨collector, (error | _)⟩
  · rfl
  · dsimp only
    rw [begin, takeBytes_reading excludes (not_mem_begun bytes), List.append_nil]

end Reader

namespace Chunk

def lines (chunks : List Chunk) : List Bytes :=
  let bytes := (chunks.takeWhile (!·.fails)).flatMap payload
  Listing.lines (if chunks.any fails then Listing.complete bytes else bytes)

theorem lines_of_delivered {chunks : List Chunk}
    (delivered : ∀ chunk ∈ chunks, chunk.fails = false) :
    lines chunks = Listing.lines (chunks.flatMap payload) := by
  have whole : chunks.takeWhile (!·.fails) = chunks :=
    List.takeWhile_eq_self_iff.mpr (by simpa using delivered)
  have none : chunks.any fails = false := by simpa using delivered
  simp [lines, whole, none]

theorem lines_append_failure {before : List Chunk}
    (delivered : ∀ chunk ∈ before, chunk.fails = false) (message : Text) (after : List Chunk) :
    lines (before ++ .failure message :: after) =
      Listing.lines (Listing.complete (before.flatMap payload)) := by
  have start : (before ++ .failure message :: after).takeWhile (!·.fails) = before := by
    rw [List.takeWhile_append_of_pos (by simpa using delivered)]
    simp [fails]
  have some : (before ++ .failure message :: after).any fails = true := by simp [fails]
  simp [lines, start, some]

theorem delivered_or_failure (chunks : List Chunk) :
    (∀ chunk ∈ chunks, chunk.fails = false) ∨
      ∃ before message after, chunks = before ++ .failure message :: after ∧
        ∀ chunk ∈ before, chunk.fails = false := by
  rcases all_or_first fails chunks with delivered | ⟨before, chunk, after, split, earlier, failed⟩
  · exact Or.inl delivered
  · right
    cases chunk with
    | failure message => exact ⟨before, message, after, split, earlier⟩
    | _ => cases failed

end Chunk

namespace Collector

open Listing

variable (excludes : Text → Bool)

-- A result that a failure of the stream overtakes: a line reported before keeps its error.
def breakOff (message : Text) : Collector × Outcome → Collector × Outcome
  | (collector, .ok ()) => (collector, .error (.stream message))
  | (collector, .error error) => (collector, .error error)

theorem fst_breakOff (message : Text) (result : Collector × Outcome) :
    (breakOff message result).1 = result.1 := by
  rcases result with ⟨collector, (error | _)⟩ <;> rfl

theorem read_append_failure {before : List Chunk}
    (delivered : ∀ chunk ∈ before, chunk.fails = false) (collector : Collector) (message : Text)
    (after : List Chunk) :
    collector.read excludes (before ++ .failure message :: after) =
      breakOff message
        (collector.addAll excludes (lines (complete (before.flatMap Chunk.payload)))) := by
  have state := Reader.takeBytes_begin excludes collector (before.flatMap Chunk.payload)
  rw [read, List.foldl_append, Reader.foldl_takeChunk excludes delivered, state, List.foldl_cons]
  rcases collector.addAll excludes (lines (complete (before.flatMap Chunk.payload))) with
    ⟨collector, (error | _)⟩ <;>
  · dsimp only [Reader.takeChunk]
    rw [Reader.foldl_takeChunk_stopped, Reader.finish, breakOff]

theorem fst_read (collector : Collector) (chunks : List Chunk) :
    (collector.read excludes chunks).1 =
      (collector.addAll excludes (Chunk.lines chunks)).1 := by
  rcases Chunk.delivered_or_failure chunks with
    delivered | ⟨before, message, after, rfl, delivered⟩
  · rw [read_eq_addAll excludes delivered, Chunk.lines_of_delivered delivered]
  · rw [read_append_failure excludes delivered, fst_breakOff,
      Chunk.lines_append_failure delivered]

theorem read_delivered {chunks : List Chunk} (delivered : ∀ chunk ∈ chunks, chunk.fails = false)
    (collector : Collector) :
    collector.read excludes chunks =
        collector.readBytes excludes (chunks.flatMap Chunk.payload) ∧
      collector.readBytes excludes (chunks.flatMap Chunk.payload) =
        collector.addAll excludes (lines (chunks.flatMap Chunk.payload)) := by
  have whole := readBytes_eq_addAll excludes collector (chunks.flatMap Chunk.payload)
  constructor
  · rw [whole]
    exact read_eq_addAll excludes delivered collector
  · exact whole

theorem read_delivered_in_letter :
    let chunks : List Chunk :=
      [.data [0x30, 0xC3], .interrupted, .data [], .data [0xA9, 0x0A, 0xFF]]
    (∀ chunk ∈ chunks, chunk.fails = false) ∧
      ({} : Collector).read (fun _ => false) chunks =
        ({} : Collector).readBytes (fun _ => false) (chunks.flatMap Chunk.payload) ∧
      ({} : Collector).readBytes (fun _ => false) (chunks.flatMap Chunk.payload) =
        ({} : Collector).addAll (fun _ => false) (lines (chunks.flatMap Chunk.payload)) :=
  ⟨by decide, read_delivered (fun _ => false) (by decide) {}⟩

theorem read_broken_off {before : List Chunk}
    (delivered : ∀ chunk ∈ before, chunk.fails = false) (collector : Collector) (message : Text)
    (after : List Chunk) :
    let bytes := before.flatMap Chunk.payload
    let alone := collector.readBytes excludes (complete bytes)
    IsCompletePart (complete bytes) bytes ∧ (∀ text, alone.2 ≠ .error (.stream text)) ∧
      collector.read excludes (before ++ .failure message :: after) =
        breakOff message alone := by
  intro bytes alone
  have lone : alone = collector.addAll excludes (lines (complete bytes)) :=
    readBytes_eq_addAll excludes collector _
  refine ⟨isCompletePart_complete bytes, ?_, ?_⟩
  · rw [lone]
    exact addAll_snd_ne_stream excludes collector _
  · rw [lone]
    exact read_append_failure excludes delivered collector message after

-- Here the failure comes inside a letter of the second line, and the rest of it later.
theorem read_broken_off_in_letter :
    let before : List Chunk := [.data [0x0A, 0x30], .interrupted, .data [0xC3]]
    let bytes := before.flatMap Chunk.payload
    let alone := ({} : Collector).readBytes (fun _ => false) (complete bytes)
    (∀ chunk ∈ before, chunk.fails = false) ∧ IsCompletePart (complete bytes) bytes ∧
      (∀ text, alone.2 ≠ .error (.stream text)) ∧
      ({} : Collector).read (fun _ => false)
          (before ++ .failure "timed out".toList :: [.data [0xA9, 0x0A]]) =
        breakOff "timed out".toList alone :=
  ⟨by decide,
    read_broken_off (fun _ => false) (by decide) {} "timed out".toList [.data [0xA9, 0x0A]]⟩

end Collector

end KernelSymbols
