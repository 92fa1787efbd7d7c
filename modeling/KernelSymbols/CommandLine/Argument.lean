import KernelSymbols.Text.Basic

set_option autoImplicit false

namespace KernelSymbols

inductive Argument
  | endOfOptions
  | long (name : Text) (value : Option Text)
  | short (letter : Char) (joined : Text)
  | word (text : Text)
deriving DecidableEq, Repr

namespace Argument

def ofText : Text → Argument
  | '-' :: '-' :: [] => .endOfOptions
  | '-' :: '-' :: name =>
      match Text.cut? '=' name with
      | some (name, value) => .long name (some value)
      | none => .long name none
  | '-' :: letter :: joined => .short letter joined
  | text => .word text

theorem ofText_name {name : Text} (nonempty : name ≠ []) :
    ofText ("--".toList ++ name) =
      match Text.cut? '=' name with
      | some (name, value) => .long name (some value)
      | none => .long name none := by
  cases name with
  | nil => exact absurd rfl nonempty
  | cons c rest => rfl

theorem ofText_letter {letter : Char} (other : letter ≠ '-') (joined : Text) :
    ofText ('-' :: letter :: joined) = .short letter joined := by
  unfold ofText
  split <;> simp_all

theorem ofText_word {text : Text} (word : text = ['-'] ∨ text.head? ≠ some '-') :
    ofText text = .word text := by
  rcases word with rfl | word
  · rfl
  · cases text with
    | nil => rfl
    | cons c rest =>
        have other : c ≠ '-' := by simpa using word
        unfold ofText
        split <;> simp_all

def joinedValue? : Text → Option Text
  | [] => none
  | '=' :: value => some value
  | value => some value

theorem joinedValue?_of_plain {value : Text} (nonempty : value ≠ [])
    (plain : value.head? ≠ some '=') : joinedValue? value = some value := by
  cases value with
  | nil => exact absurd rfl nonempty
  | cons c rest =>
      have other : c ≠ '=' := by simpa using plain
      unfold joinedValue?
      split <;> simp_all

end Argument

end KernelSymbols
