import KernelSymbols.Exclusion
import KernelSymbols.Proofs.Growth

set_option autoImplicit false

namespace KernelSymbols

def Stricter (loose strict : Text → Bool) : Prop :=
  ∀ name, loose name = true → strict name = true

theorem Exclusion.stricter_pushAll (exclusion : Exclusion) (prefixes : List Text) :
    Stricter exclusion.excludes (exclusion.pushAll prefixes).excludes := by
  intro name excluded
  rw [excludes_eq_true_iff] at excluded ⊢
  obtain ⟨start, member, begins⟩ := excluded
  exact ⟨start, by simp [member], begins⟩

namespace Listing

variable {loose strict : Text → Bool} (stricter : Stricter loose strict)
include stricter

theorem kept?_of_stricter (line : Bytes) :
    kept? strict line = (kept? loose line).filter fun fields => !strict fields.name := by
  cases split : fields? line with
  | none => simp [kept?, split]
  | some fields =>
      cases excluded : loose fields.name with
      | false => simp [kept?, split, Option.filter_some, excluded]
      | true => simp [kept?, split, Option.filter_some, excluded, stricter _ excluded]

theorem isFatal_of_stricter {line : Bytes} (fatal : isFatal strict line = true) :
    isFatal loose line = true := by
  rw [isFatal, kept?_of_stricter stricter] at fatal
  rw [isFatal]
  simp only [Bool.or_eq_true, Option.any_eq_true, Option.filter_eq_some_iff] at fatal ⊢
  rcases fatal with unread | ⟨fields, ⟨kept, -⟩, misfit⟩
  · exact .inl unread
  · exact .inr ⟨fields, kept, misfit⟩

theorem sound_of_stricter {lines : List Bytes} (sound : Sound loose lines) :
    Sound strict lines := by
  intro line member
  by_contra fatal
  have faulty := isFatal_of_stricter stricter (by simpa using fatal)
  simp [sound line member] at faulty

theorem symbols_of_stricter (lines : List Bytes) :
    symbols strict lines = (symbols loose lines).filter fun symbol => !strict symbol.name := by
  rw [symbols, symbols, List.filter_filterMap]
  congr 1
  funext line
  ext symbol
  simp only [Option.filter_eq_some_iff, symbol?_eq_some_iff, kept?_of_stricter stricter]
  rfl

end Listing

namespace Collector

open Listing

-- How a collector under a stricter filter compares with one that has collected `records`.
structure Narrowed (strict : Text → Bool) (records : List Symbol) (first second : Collector) :
    Prop where
  entries : first.table.toList = records.map Symbol.initializer
  remaining : second.table.toList =
    (records.filter fun symbol => !strict symbol.name).map Symbol.initializer
  lines : second.tally.lines = first.tally.lines
  malformed : second.tally.malformed = first.tally.malformed
  formed : second.tally.retained + second.tally.excluded =
    first.tally.retained + first.tally.excluded

theorem narrowed_withLines {loose strict : Text → Bool} (stricter : Stricter loose strict)
    {parts : List Bytes} (sound : Sound loose parts) :
    Narrowed strict (symbols loose parts) (({} : Collector).withLines loose parts)
      (({} : Collector).withLines strict parts) where
  entries := by simp [withLines]
  remaining := by simp [withLines, symbols_of_stricter stricter]
  lines := rfl
  malformed := rfl
  formed := by
    have first := balance_counts loose sound
    have second := balance_counts strict (sound_of_stricter stricter sound)
    simp only [withLines, Tally.zero_add]
    simp only [counts] at first second ⊢
    omega

theorem readBytes_of_stricter :
    (∀ (exclusion : Exclusion) (prefixes : List Text),
      Stricter exclusion.excludes (exclusion.pushAll prefixes).excludes) ∧
    ∀ loose strict : Text → Bool, Stricter loose strict → ∀ bytes : Bytes,
      let first := ({} : Collector).readBytes loose bytes
      let second := ({} : Collector).readBytes strict bytes
      (first.2 = .ok () →
        second.2 = .ok () ∧ Narrowed strict (symbols loose (lines bytes)) first.1 second.1) ∧
      ∀ error, second.2 = .error error →
        ∃ earlier k j, first.2 = .error earlier ∧ error.line? = some k ∧
          earlier.line? = some j ∧ j ≤ k := by
  refine ⟨Exclusion.stricter_pushAll, ?_⟩
  intro loose strict stricter bytes first second
  have once : first = _ := readBytes_eq_addAll loose {} bytes
  have again : second = _ := readBytes_eq_addAll strict {} bytes
  rw [once, again]
  constructor
  · intro read
    have sound := (snd_addAll_eq_ok_iff loose).mp read
    rw [addAll_of_sound loose sound, addAll_of_sound strict (sound_of_stricter stricter sound)]
    exact ⟨rfl, narrowed_withLines stricter sound⟩
  · intro error failed
    rcases sound_or_fatal strict (lines bytes) with
      sound | ⟨before, line, after, split, sound, fatal⟩
    · rw [addAll_of_sound strict sound] at failed
      cases failed
    · obtain ⟨earlier, faulty, later, resplit, calm, spoiled, bound⟩ :=
        exists_first_fatal loose (isFatal_of_stricter stricter fatal) before after
      rw [split, addAll_of_fatal strict sound fatal] at failed
      cases failed
      rw [split, resplit, addAll_of_fatal loose calm spoiled]
      exact ⟨_, _, _, rfl, line?_report strict _ line, line?_report loose _ faulty,
        by omega⟩

theorem readBytes_of_two_prefixes :
    let exclusion : Exclusion := ⟨[".L".toList]⟩
    let loose := exclusion.excludes
    let strict := (exclusion.pushAll ["b".toList]).excludes
    let bytes := Utf8.encode "1 2 T a\n3 4 T .Lx\n5 6 T bar\n7".toList
    let first := ({} : Collector).readBytes loose bytes
    let second := ({} : Collector).readBytes strict bytes
    Stricter loose strict ∧ first.2 = .ok () ∧ second.2 = .ok () ∧
      Narrowed strict (symbols loose (lines bytes)) first.1 second.1 := by
  intro exclusion loose strict bytes first second
  have stricter := readBytes_of_stricter.1 exclusion ["b".toList]
  have read : first.2 = .ok () := by decide +kernel
  exact ⟨stricter, read, (readBytes_of_stricter.2 loose strict stricter bytes).1 read⟩

end Collector

end KernelSymbols
