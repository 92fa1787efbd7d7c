import KernelSymbols.Generation
import KernelSymbols.Proofs.Text.Validity

set_option autoImplicit false

namespace KernelSymbols

-- White space that ends no line.
def Text.IsPadding (text : Text) : Prop := ∀ c ∈ text, isBlank c = true ∧ c ≠ '\n'

instance (text : Text) : Decidable text.IsPadding :=
  decidable_of_iff (text.all fun c => Text.isBlank c && c != '\n') (by simp [Text.IsPadding])

theorem Text.IsPadding.blank {text : Text} (padding : IsPadding text) :
    text.all isBlank = true := by
  rw [List.all_eq_true]
  intro c member
  exact (padding c member).1

theorem Text.IsPadding.unbroken {text : Text} (padding : IsPadding text) :
    lineFeed ∉ Utf8.encode text := by
  have small : lineFeed.toNat < 0x80 := by decide
  rw [Utf8.mem_encode_iff small]
  intro member
  exact (padding _ member).2 rfl

theorem Verdict.ofLine_enclosed {before after : Text} (padding_before : before.IsPadding)
    (padding_after : after.IsPadding) (excludes : Text → Bool) (line : Text) :
    ofLine excludes (before ++ line ++ after) = ofLine excludes line := by
  simp only [ofLine, Fields.ofLine?, Text.trim_padded padding_before.blank padding_after.blank]

namespace Listing

structure PaddedLine where
  before : Text
  line : Bytes
  after : Text
  padding_before : before.IsPadding
  padding_after : after.IsPadding
  unbroken : lineFeed ∉ line

namespace PaddedLine

def bytes (padded : PaddedLine) : Bytes :=
  Utf8.encode padded.before ++ padded.line ++ Utf8.encode padded.after

theorem unbroken_bytes (padded : PaddedLine) : lineFeed ∉ padded.bytes := by
  simp only [bytes, List.mem_append, not_or]
  exact ⟨⟨padded.padding_before.unbroken, padded.unbroken⟩, padded.padding_after.unbroken⟩

end PaddedLine

end Listing

namespace Collector

open Listing

variable (excludes : Text → Bool)

theorem addBytes_padded (collector : Collector) (padded : PaddedLine) :
    collector.addBytes excludes padded.bytes = collector.addBytes excludes padded.line := by
  rw [addBytes, addBytes, PaddedLine.bytes, Utf8.decode_enclosed]
  cases Utf8.decode padded.line with
  | none => rfl
  | some text =>
      dsimp only [Option.map_some]
      rw [addLine, addLine, Verdict.ofLine_enclosed padded.padding_before padded.padding_after]

theorem addAll_padded (collector : Collector) (listing : List PaddedLine) :
    collector.addAll excludes (listing.map PaddedLine.bytes) =
      collector.addAll excludes (listing.map PaddedLine.line) := by
  induction listing generalizing collector with
  | nil => rfl
  | cons padded rest ih =>
      simp only [List.map_cons, addAll, addBytes_padded, ih]

end Collector

namespace Generation

open Listing

variable (excludes : Text → Bool)

theorem ofBytes_eq_of_lines {bytes : Bytes} {parts : List Bytes}
    (split : Listing.lines bytes = parts) :
    ofBytes excludes bytes = ofCollector (({} : Collector).addAll excludes parts) := by
  rw [ofBytes, Collector.readBytes_eq_addAll, split]

theorem ofBytes_padded (listing : List PaddedLine) :
    let bare := ofLines (listing.map PaddedLine.line)
    let padded := ofLines (listing.map PaddedLine.bytes)
    ofBytes excludes padded = ofBytes excludes bare ∧
      ((∀ last ∈ listing.getLast?, last.line ≠ []) →
        ofBytes excludes bare.dropLast = ofBytes excludes bare) ∧
      ((∀ last ∈ listing.getLast?, last.bytes ≠ []) →
        ofBytes excludes padded.dropLast = ofBytes excludes bare) := by
  intro bare padded
  have whole : ∀ line ∈ listing.map PaddedLine.line, lineFeed ∉ line := by
    simpa using fun line _ => PaddedLine.unbroken line
  have whole_padded : ∀ line ∈ listing.map PaddedLine.bytes, lineFeed ∉ line := by
    simpa using fun line _ => PaddedLine.unbroken_bytes line
  have plain := ofBytes_eq_of_lines excludes (lines_ofLines whole)
  have same := Collector.addAll_padded excludes {} listing
  refine ⟨?_, ?_, ?_⟩
  · rw [plain, ofBytes_eq_of_lines excludes (lines_ofLines whole_padded), same]
  · intro nonempty
    have cut := lines_dropLast_ofLines whole (by simpa using nonempty)
    rw [plain, ofBytes_eq_of_lines excludes cut]
  · intro nonempty
    have cut := lines_dropLast_ofLines whole_padded (by simpa using nonempty)
    rw [plain, ofBytes_eq_of_lines excludes cut, same]

-- Spaces of two and three bytes stand next to the first two bytes of a character of three, and the
-- line before has nothing but its padding.
theorem ofBytes_padded_beside_torn_character :
    let excludes : Text → Bool := fun _ => false
    let bare := Utf8.encode "1 2 T a\n\n".toList ++ [0x31, 0xE3, 0x80, lineFeed]
    let padded := Utf8.encode "1 2 T a\r\n\r\n\u3000".toList ++
      [0x31, 0xE3, 0x80, 0xC2, 0xA0, 0x0D, lineFeed]
    (ofBytes excludes bare).outcome = .error (.encoding 3) ∧
      ofBytes excludes padded = ofBytes excludes bare ∧
      ofBytes excludes bare.dropLast = ofBytes excludes bare ∧
      ofBytes excludes padded.dropLast = ofBytes excludes bare := by
  intro excludes bare padded
  let listing : List PaddedLine :=
    [⟨[], Utf8.encode "1 2 T a".toList, ['\r'], by decide, by decide, by decide +kernel⟩,
      ⟨[], [], ['\r'], by decide, by decide, by decide⟩,
      ⟨['\u3000'], [0x31, 0xE3, 0x80], ['\u00A0', '\r'], by decide, by decide, by decide⟩]
  have lines : ofLines (listing.map PaddedLine.line) = bare := by decide +kernel
  have bytes : ofLines (listing.map PaddedLine.bytes) = padded := by decide +kernel
  have framed := ofBytes_padded excludes listing
  rw [lines, bytes] at framed
  exact ⟨by decide +kernel, framed.1, framed.2.1 (by simp [listing]),
    framed.2.2 (by simp [listing, PaddedLine.bytes])⟩

end Generation

end KernelSymbols
