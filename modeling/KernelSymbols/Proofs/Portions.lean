import KernelSymbols.Proofs.Stream

set_option autoImplicit false

namespace KernelSymbols

inductive Portion
  | listing (bytes : Bytes)
  | line (text : Text)
deriving DecidableEq, Repr

namespace Portion

def bytes : Portion → Bytes
  | .listing bytes => bytes
  | .line text => Utf8.encode text ++ [lineFeed]

-- No line goes on in the next portion.
def Whole : Portion → Prop
  | .listing bytes => Listing.EndsLine bytes
  | .line text => '\n' ∉ text

instance (portion : Portion) : Decidable portion.Whole := by
  cases portion with
  | listing bytes => exact inferInstanceAs (Decidable (bytes = [] ∨ bytes.getLast? = some lineFeed))
  | line text => exact inferInstanceAs (Decidable ('\n' ∉ text))

theorem Whole.endsLine {portion : Portion} (whole : portion.Whole) :
    Listing.EndsLine portion.bytes := by
  cases portion with
  | listing bytes => exact whole
  | line text => exact Or.inr (by simp [bytes])

end Portion

namespace Collector

open Listing

variable (excludes : Text → Bool)

def take (collector : Collector) : Portion → Collector × Outcome
  | .listing bytes => collector.readBytes excludes bytes
  | .line text => collector.addLine excludes text

def takeAll : Collector → List Portion → Collector × Outcome
  | collector, [] => (collector, .ok ())
  | collector, portion :: rest =>
      match collector.take excludes portion with
      | (collector, .ok ()) => collector.takeAll rest
      | reported => reported

theorem readBytes_append {left : Bytes} (ends : EndsLine left) (collector : Collector)
    (right : Bytes) :
    collector.readBytes excludes (left ++ right) =
      match collector.readBytes excludes left with
      | (next, .ok ()) => next.readBytes excludes right
      | reported => reported := by
  simp only [readBytes_eq_addAll, lines_append ends]
  exact addAll_append excludes collector (lines left) (lines right)

theorem readBytes_line {line : Text} (unbroken : '\n' ∉ line) (collector : Collector) :
    collector.readBytes excludes (Utf8.encode line ++ [lineFeed]) =
      collector.addLine excludes line := by
  have small : lineFeed.toNat < 0x80 := by decide
  have absent : lineFeed ∉ Utf8.encode line := by
    rw [Utf8.mem_encode_iff small]
    exact unbroken
  have single : lines (Utf8.encode line ++ [lineFeed]) = [Utf8.encode line] :=
    lines_line_append absent []
  rw [readBytes_eq_addAll, single, addAll_singleton, addBytes_encode]

theorem take_eq_readBytes {portion : Portion} (whole : portion.Whole) (collector : Collector) :
    collector.take excludes portion = collector.readBytes excludes portion.bytes := by
  cases portion with
  | listing bytes => rfl
  | line text => exact (readBytes_line excludes whole collector).symm

theorem takeAll_eq_readBytes {portions : List Portion}
    (whole : ∀ portion ∈ portions, portion.Whole) (collector : Collector) :
    collector.takeAll excludes portions =
      collector.readBytes excludes (portions.flatMap Portion.bytes) := by
  induction portions generalizing collector with
  | nil => rfl
  | cons portion rest ih =>
      obtain ⟨first, others⟩ := List.forall_mem_cons.mp whole
      rw [takeAll, List.flatMap_cons, readBytes_append excludes first.endsLine,
        take_eq_readBytes excludes first]
      rcases collector.readBytes excludes portion.bytes with ⟨next, (error | _)⟩
      · rfl
      · exact ih others next

theorem readBytes_in_portions (collector : Collector) :
    (∀ left right : Bytes, EndsLine left →
        collector.readBytes excludes (left ++ right) =
          match collector.readBytes excludes left with
          | (next, .ok ()) => next.readBytes excludes right
          | reported => reported) ∧
      (∀ line : Text, '\n' ∉ line →
        collector.readBytes excludes (Utf8.encode line ++ [lineFeed]) =
          collector.addLine excludes line) ∧
      ∀ portions : List Portion, (∀ portion ∈ portions, portion.Whole) →
        let joined := portions.flatMap Portion.bytes
        collector.takeAll excludes portions = collector.readBytes excludes joined ∧
          match collector.takeAll excludes portions with
          | (next, .ok ()) => next.tally.lines = collector.tally.lines + (lines joined).length
          | (_, .error error) =>
              ∃ before line after, lines joined = before ++ line :: after ∧
                Sound excludes before ∧ isFatal excludes line = true ∧
                error = report excludes (collector.tally.lines + before.length + 1) line := by
  refine ⟨?_, ?_, ?_⟩
  · intro left right ends
    exact readBytes_append excludes ends collector right
  · intro line unbroken
    exact readBytes_line excludes unbroken collector
  · intro portions whole joined
    have same := takeAll_eq_readBytes excludes whole collector
    refine ⟨same, ?_⟩
    rw [same, readBytes_eq_addAll]
    rcases added : collector.addAll excludes (lines joined) with ⟨next, (error | _)⟩
    · exact addAll_error excludes (congrArg Prod.snd added)
    · exact lines_addAll excludes added

-- The fault is in the fourth line of what is taken, after four lines of which nothing is said.
theorem readBytes_in_three_portions :
    let excludes : Text → Bool := fun _ => false
    let collector : Collector := { tally := { lines := 4 } }
    let left := Utf8.encode "1 2 T a\n\n".toList
    let line := "no é".toList
    let right := Utf8.encode "3 zz T b\n".toList
    let portions : List Portion := [.listing left, .line line, .listing right]
    let next := (collector.readBytes excludes left).1
    (EndsLine left ∧
        collector.readBytes excludes (left ++ right) = next.readBytes excludes right) ∧
      ('\n' ∉ line ∧
        collector.readBytes excludes (Utf8.encode line ++ [lineFeed]) =
          collector.addLine excludes line) ∧
      (∀ portion ∈ portions, portion.Whole) ∧
      collector.takeAll excludes portions =
        collector.readBytes excludes (portions.flatMap Portion.bytes) ∧
      (collector.takeAll excludes portions).2 =
        .error (.field 8 (.notHexadecimal .size "zz".toList)) := by
  intro excludes collector left line right portions next
  obtain ⟨joined, single, taken⟩ := readBytes_in_portions excludes collector
  have ends : EndsLine left := by unfold EndsLine; decide +kernel
  have unbroken : '\n' ∉ line := by decide
  have whole : ∀ portion ∈ portions, portion.Whole := by decide +kernel
  have read : collector.readBytes excludes left = (next, .ok ()) := by decide +kernel
  have both := joined left right ends
  rw [read] at both
  exact ⟨⟨ends, both⟩, ⟨unbroken, single line unbroken⟩, whole, (taken portions whole).1,
    by decide +kernel⟩

end Collector

end KernelSymbols
