import KernelSymbols.Proofs.Reference

set_option autoImplicit false

namespace KernelSymbols

namespace Listing

variable (excludes : Text → Bool)

-- A text without fields, or with an excluded name, whatever its other fields are.
def isDropped (line : Bytes) : Bool := isMalformed line || isExcluded excludes line

theorem judgement_of_isDropped {line : Bytes} (dropped : isDropped excludes line = true) :
    isFatal excludes line = false ∧ kept? excludes line = none := by
  rw [isDropped, Bool.or_eq_true] at dropped
  rcases dropped with malformed | excluded
  · simp only [isMalformed, Bool.and_eq_true, Option.isSome_iff_exists,
      Option.isNone_iff_eq_none] at malformed
    obtain ⟨⟨text, decoded⟩, fieldless⟩ := malformed
    simp [isFatal, kept?, decoded, fieldless]
  · obtain ⟨fields, split, name⟩ := (Option.any_eq_true _ _).mp excluded
    obtain ⟨text, decoded, -⟩ := Option.bind_eq_some_iff.mp split
    simp [isFatal, kept?, decoded, split, name]

structure DraftLine where
  line : Bytes
  struck : Bool
deriving DecidableEq, Repr

def whole (draft : List DraftLine) : List Bytes := draft.map DraftLine.line

def remaining (draft : List DraftLine) : List Bytes := whole (draft.filter (!·.struck))

-- How many lines are struck out before the one with this number.
def struckBefore (draft : List DraftLine) (number : Nat) : Nat :=
  (draft.take (number - 1)).countP DraftLine.struck

theorem mem_whole_of_mem_remaining {draft : List DraftLine} {line : Bytes}
    (member : line ∈ remaining draft) : line ∈ whole draft :=
  (List.filter_sublist.map DraftLine.line).mem member

theorem remaining_append (left right : List DraftLine) :
    remaining (left ++ right) = remaining left ++ remaining right := by
  simp [remaining, whole]

theorem length_remaining (draft : List DraftLine) :
    (remaining draft).length = draft.length - draft.countP DraftLine.struck := by
  have all := List.length_eq_countP_add_countP DraftLine.struck (l := draft)
  have kept : (remaining draft).length = draft.countP fun entry => decide ¬entry.struck = true := by
    simp [remaining, whole, List.countP_eq_length_filter]
  omega

variable {excludes}

theorem sound_remaining {draft : List DraftLine} (sound : Sound excludes (whole draft)) :
    Sound excludes (remaining draft) :=
  fun line member => sound line (mem_whole_of_mem_remaining member)

def Thins (excludes : Text → Bool) (draft : List DraftLine) : Prop :=
  ∀ entry ∈ draft, entry.struck = true → isDropped excludes entry.line = true

theorem filterMap_kept?_remaining {draft : List DraftLine} (thins : Thins excludes draft) :
    (remaining draft).filterMap (kept? excludes) = (whole draft).filterMap (kept? excludes) := by
  induction draft with
  | nil => rfl
  | cons entry rest ih =>
      obtain ⟨first, others⟩ := List.forall_mem_cons.mp thins
      have next := ih others
      unfold remaining whole at next ⊢
      cases struck : entry.struck with
      | true =>
          obtain ⟨-, unkept⟩ := judgement_of_isDropped excludes (first struck)
          simp [struck, unkept, next]
      | false => simp [struck, next, List.filterMap_cons]

theorem exists_split_of_fatal {draft : List DraftLine} (thins : Thins excludes draft)
    {before after : List Bytes} {line : Bytes} (split : whole draft = before ++ line :: after)
    (fatal : isFatal excludes line = true) :
    ∃ earlier later, draft = earlier ++ ⟨line, false⟩ :: later ∧ whole earlier = before := by
  obtain ⟨earlier, rest, rfl, same, tail⟩ := List.map_eq_append_iff.mp split
  obtain ⟨⟨_, struck⟩, later, rfl, rfl, -⟩ := List.map_eq_cons_iff.mp tail
  refine ⟨earlier, later, ?_, same⟩
  cases struck with
  | false => rfl
  | true =>
      have dropped := thins ⟨_, true⟩ List.mem_append_cons_self rfl
      obtain ⟨sound, -⟩ := judgement_of_isDropped excludes dropped
      rw [fatal] at sound
      cases sound

theorem number_remaining (earlier : List DraftLine) (entry : DraftLine)
    (later : List DraftLine) :
    earlier.length + 1 - struckBefore (earlier ++ entry :: later) (earlier.length + 1) =
      (remaining earlier).length + 1 := by
  have bound : earlier.countP DraftLine.struck ≤ earlier.length := List.countP_le_length
  simp only [struckBefore, length_remaining, Nat.add_sub_cancel, List.take_left]
  omega

end Listing

namespace Generation

open Listing

variable {excludes : Text → Bool}

theorem ofBytes_remaining {draft : List DraftLine}
    (unbroken : ∀ entry ∈ draft, lineFeed ∉ entry.line) (thins : Thins excludes draft) :
    let full := ofBytes excludes (ofLines (whole draft))
    let short := ofBytes excludes (ofLines (remaining draft))
    short.outcome =
        full.outcome.mapError (·.renumber fun number => number - struckBefore draft number) ∧
      short.output = full.output ∧ short.tally.retained = full.tally.retained := by
  intro full short
  have cut : Listing.lines (ofLines (whole draft)) = whole draft := by
    apply lines_ofLines
    simpa [whole] using unbroken
  have recut : Listing.lines (ofLines (remaining draft)) = remaining draft := by
    apply lines_ofLines
    intro line member
    exact not_mem_of_mem_lines (cut ▸ mem_whole_of_mem_remaining member)
  rcases sound_or_fatal excludes (whole draft) with
    sound | ⟨before, line, after, split, sound, fatal⟩
  · have first : full = _ := ofBytes_of_sound excludes (by rwa [cut])
    have second : short = _ := ofBytes_of_sound excludes (recut.symm ▸ sound_remaining sound)
    have same := filterMap_kept?_remaining thins
    rw [first, second, cut, recut, same]
    exact ⟨rfl, rfl, congrArg List.length same⟩
  · obtain ⟨earlier, later, rfl, rfl⟩ := exists_split_of_fatal thins split fatal
    have rest : remaining (earlier ++ ⟨line, false⟩ :: later) =
        remaining earlier ++ line :: remaining later := remaining_append earlier _
    have first : full = _ := ofBytes_of_fatal excludes (cut.trans split) sound fatal
    have second : short = _ :=
      ofBytes_of_fatal excludes (recut.trans rest) (sound_remaining sound) fatal
    have number := number_remaining earlier ⟨line, false⟩ later
    have thinned : Thins excludes earlier :=
      fun entry member => thins entry (List.mem_append_left _ member)
    have same := filterMap_kept?_remaining thinned
    rw [first, second]
    refine ⟨?_, rfl, ?_⟩
    · simp only [Except.mapError, renumber_report, whole, List.length_map, number]
    · simp only [Collector.retained_spoil, Collector.withLines, Tally.zero_add]
      exact congrArg List.length same

-- Here the fault of the fourth line is that of the second one when the two dropped lines are gone.
theorem ofBytes_remaining_of_four :
    let excludes : Text → Bool := fun name => name == "skip".toList
    let draft : List DraftLine :=
      [⟨Utf8.encode "no symbol".toList, true⟩, ⟨Utf8.encode "1 2 T a".toList, false⟩,
        ⟨Utf8.encode "zz 2 T skip".toList, true⟩, ⟨Utf8.encode "1 xx T b".toList, false⟩]
    (∀ entry ∈ draft, lineFeed ∉ entry.line) ∧ Thins excludes draft ∧
      (ofBytes excludes (ofLines (whole draft))).outcome =
        .error (.field 4 (.notHexadecimal .size "xx".toList)) ∧
      (ofBytes excludes (ofLines (remaining draft))).outcome =
        .error (.field 2 (.notHexadecimal .size "xx".toList)) := by
  intro excludes draft
  have unbroken : ∀ entry ∈ draft, lineFeed ∉ entry.line := by decide +kernel
  have thins : Thins excludes draft := by unfold Thins; decide +kernel
  have full : (ofBytes excludes (ofLines (whole draft))).outcome =
      .error (.field 4 (.notHexadecimal .size "xx".toList)) := by decide +kernel
  obtain ⟨short, -, -⟩ := ofBytes_remaining unbroken thins
  rw [full] at short
  exact ⟨unbroken, thins, full, short⟩

end Generation

end KernelSymbols
