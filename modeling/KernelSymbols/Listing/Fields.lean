import KernelSymbols.Text.Blank

set_option autoImplicit false

namespace KernelSymbols

structure Fields where
  address : Text
  size : Text
  kind : Text
  name : Text
deriving DecidableEq, Repr

namespace Fields

def line (fields : Fields) : Text :=
  fields.address ++ ' ' :: fields.size ++ ' ' :: fields.kind ++ ' ' :: fields.name

def Complete (fields : Fields) : Prop :=
  fields.address ≠ [] ∧ fields.size ≠ [] ∧ fields.kind ≠ [] ∧ fields.name ≠ [] ∧ ' ' ∉ fields.name

instance (fields : Fields) : Decidable fields.Complete := by
  unfold Complete; infer_instance

def ofTrimmed? (text : Text) : Option Fields :=
  match Text.cut? ' ' text with
  | none => none
  | some (address, rest) =>
      match Text.cut? ' ' rest with
      | none => none
      | some (size, rest) =>
          match Text.cut? ' ' rest with
          | none => none
          | some (kind, name) =>
              let fields : Fields := ⟨address, size, kind, name⟩
              if fields.Complete then some fields else none

def ofLine? (line : Text) : Option Fields := ofTrimmed? (Text.trim line)

theorem ofTrimmed?_eq_some_iff {text : Text} {fields : Fields} :
    ofTrimmed? text = some fields ↔
      text = fields.line ∧ fields.Complete ∧
        ' ' ∉ fields.address ∧ ' ' ∉ fields.size ∧ ' ' ∉ fields.kind := by
  constructor
  · intro h
    rw [ofTrimmed?] at h
    split at h
    · cases h
    next address rest hcut =>
      split at h
      · cases h
      next size rest' hcut' =>
        split at h
        · cases h
        next kind name hcut'' =>
          dsimp only at h
          split at h
          next complete =>
            cases h
            obtain ⟨rfl, ha⟩ := Text.cut?_eq_some_iff.mp hcut
            obtain ⟨rfl, hs⟩ := Text.cut?_eq_some_iff.mp hcut'
            obtain ⟨rfl, hk⟩ := Text.cut?_eq_some_iff.mp hcut''
            exact ⟨by simp [line], complete, ha, hs, hk⟩
          · cases h
  · intro spelled
    obtain ⟨rfl, complete, ha, hs, hk⟩ := spelled
    have first : Text.cut? ' ' fields.line =
        some (fields.address, fields.size ++ ' ' :: fields.kind ++ ' ' :: fields.name) :=
      Text.cut?_eq_some_iff.mpr ⟨by simp [line], ha⟩
    have second : Text.cut? ' ' (fields.size ++ ' ' :: fields.kind ++ ' ' :: fields.name) =
        some (fields.size, fields.kind ++ ' ' :: fields.name) :=
      Text.cut?_eq_some_iff.mpr ⟨by simp, hs⟩
    have third : Text.cut? ' ' (fields.kind ++ ' ' :: fields.name) =
        some (fields.kind, fields.name) :=
      Text.cut?_eq_some_iff.mpr ⟨rfl, hk⟩
    simp only [ofTrimmed?, first, second, third, complete, ↓reduceIte]

theorem ofLine?_eq_some_iff {text : Text} {fields : Fields} :
    ofLine? text = some fields ↔
      Text.trim text = fields.line ∧ fields.Complete ∧
        ' ' ∉ fields.address ∧ ' ' ∉ fields.size ∧ ' ' ∉ fields.kind :=
  ofTrimmed?_eq_some_iff

end Fields

end KernelSymbols
