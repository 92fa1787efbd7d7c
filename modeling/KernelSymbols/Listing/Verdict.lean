import KernelSymbols.Listing.Symbol

set_option autoImplicit false

namespace KernelSymbols

inductive Verdict
  | malformed
  | excluded
  | retained (symbol : Symbol)
  | faulty (fault : FieldFault)
deriving DecidableEq, Repr

namespace Verdict

def ofFields (excludes : Text → Bool) (fields : Fields) : Verdict :=
  if excludes fields.name then .excluded
  else match Symbol.ofFields fields with
    | .ok symbol => .retained symbol
    | .error fault => .faulty fault

def ofLine (excludes : Text → Bool) (line : Text) : Verdict :=
  match Fields.ofLine? line with
  | none => .malformed
  | some fields => ofFields excludes fields

theorem ofLine_eq_malformed_iff {excludes : Text → Bool} {line : Text} :
    ofLine excludes line = .malformed ↔ Fields.ofLine? line = none := by
  unfold ofLine ofFields
  repeat' split
  all_goals simp_all

theorem ofLine_eq_excluded_iff {excludes : Text → Bool} {line : Text} :
    ofLine excludes line = .excluded ↔
      ∃ fields, Fields.ofLine? line = some fields ∧ excludes fields.name = true := by
  unfold ofLine ofFields
  repeat' split
  all_goals simp_all

theorem ofLine_eq_retained_iff {excludes : Text → Bool} {line : Text} {symbol : Symbol} :
    ofLine excludes line = .retained symbol ↔
      Fields.ofLine? line = some symbol.fields ∧ excludes symbol.name = false := by
  cases h : Fields.ofLine? line with
  | none => simp [ofLine, h]
  | some fields =>
      simp only [ofLine, ofFields, h, Option.some.injEq]
      split
      next he =>
        simp only [reduceCtorEq, false_iff, not_and, Bool.not_eq_false]
        rintro rfl
        exact he
      next he =>
        split
        next kept hs =>
          have := Symbol.fields_of_ofFields hs
          subst this
          simp only [retained.injEq]
          constructor
          · rintro rfl
            exact ⟨rfl, by simpa [Symbol.fields] using he⟩
          · intro split
            obtain ⟨same, -⟩ := split
            have := Symbol.ofFields_fields symbol
            rw [← same, hs] at this
            exact Except.ok.inj this
        next fault hs =>
          simp only [reduceCtorEq, false_iff, not_and]
          rintro rfl
          simp [Symbol.ofFields_fields] at hs

end Verdict

end KernelSymbols
