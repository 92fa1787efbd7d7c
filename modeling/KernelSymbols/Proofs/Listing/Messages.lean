import KernelSymbols.Proofs.Listing.Judgement
import KernelSymbols.Proofs.Text.Quotation
import Mathlib.Data.List.Basic

set_option autoImplicit false

namespace KernelSymbols

namespace Text

def decimal? (digits : Text) : Option Nat :=
  let n := Nat.ofDigitChars 10 digits 0
  if decimal n = digits then some n else none

theorem decimal?_eq_some_iff {digits : Text} {n : Nat} :
    decimal? digits = some n ↔ digits = decimal n := by
  constructor
  · intro read
    obtain ⟨spelled, same⟩ := Option.ite_none_right_eq_some.mp read
    rw [← Option.some.inj same]
    exact spelled.symm
  · rintro rfl
    have value : Nat.ofDigitChars 10 (decimal n) 0 = n := Nat.ofDigitChars_ten_toDigits
    simp [decimal?, value]

-- What stands before the first colon, and what after it and a space.
def clause? (message : Text) : Option (Text × Text) :=
  (cut? ':' message).bind fun (clause, rest) => ([' '].isPrefixOf? rest).map (clause, ·)

theorem clause?_eq_some_iff {message clause rest : Text} :
    clause? message = some (clause, rest) ↔
      message = clause ++ ": ".toList ++ rest ∧ ':' ∉ clause := by
  have colon : ": ".toList = [':', ' '] := by decide
  rw [clause?, Option.bind_eq_some_iff]
  constructor
  · intro read
    obtain ⟨⟨left, right⟩, cut, spaced⟩ := read
    obtain ⟨after, follows, same⟩ := Option.map_eq_some_iff.mp spaced
    obtain ⟨rfl, rfl⟩ := Prod.mk.inj same
    rw [← List.isPrefixOf?_eq_some_iff_append_eq.mp follows, cut?_eq_some_iff] at cut
    simpa [colon] using cut
  · intro spelled
    obtain ⟨rfl, absent⟩ := spelled
    refine ⟨(clause, ' ' :: rest), cut?_eq_some_iff.mpr ⟨?_, absent⟩, ?_⟩
    · simp [colon]
    · rfl

end Text

namespace FieldFault

def wording : FieldFault → String
  | .notHexadecimal .address _ => "address field is not a hexadecimal number"
  | .notHexadecimal .size _ => "size field is not a hexadecimal number"
  | .notOneCharacter _ => "symbol kind must be a single character"

def value : FieldFault → Text
  | .notHexadecimal _ value | .notOneCharacter value => value

theorem message_eq (fault : FieldFault) :
    fault.message = fault.wording.toList ++ ": ".toList ++ Text.quote fault.value := by
  have address : NumericField.address.label ++ " field is not a hexadecimal number: ".toList =
      "address field is not a hexadecimal number".toList ++ ": ".toList := by
    decide
  have size : NumericField.size.label ++ " field is not a hexadecimal number: ".toList =
      "size field is not a hexadecimal number".toList ++ ": ".toList := by
    decide
  have kind : "symbol kind must be a single character: ".toList =
      "symbol kind must be a single character".toList ++ ": ".toList := by
    decide
  cases fault with
  | notHexadecimal field value =>
      cases field with
      | address => exact congrArg (· ++ Text.quote value) address
      | size => exact congrArg (· ++ Text.quote value) size
  | notOneCharacter value => exact congrArg (· ++ Text.quote value) kind

theorem colon_not_mem_wording (fault : FieldFault) : ':' ∉ fault.wording.toList := by
  cases fault with
  | notHexadecimal field value => cases field <;> (rw [wording]; decide)
  | notOneCharacter value =>
      rw [wording]
      decide

theorem hasNoControl_message (fault : FieldFault) : Text.hasNoControl fault.message = true := by
  have worded : Text.hasNoControl fault.wording.toList = true := by
    cases fault with
    | notHexadecimal field value => cases field <;> (rw [wording]; decide)
    | notOneCharacter value =>
        rw [wording]
        decide
  have colon : Text.hasNoControl ": ".toList = true := by decide
  rw [message_eq, Text.hasNoControl_append, Text.hasNoControl_append, worded, colon,
    Text.hasNoControl_quote]
  rfl

def ofWording? (wording value : Text) : Option FieldFault :=
  [.notHexadecimal .address value, .notHexadecimal .size value, .notOneCharacter value].find?
    fun fault => fault.wording.toList = wording

theorem ofWording?_eq_some_iff {wording value : Text} {fault : FieldFault} :
    ofWording? wording value = some fault ↔
      wording = fault.wording.toList ∧ value = fault.value := by
  constructor
  · intro found
    have worded := List.find?_some found
    have member := List.mem_of_find?_eq_some found
    simp only [List.mem_cons, List.not_mem_nil, or_false] at member
    refine ⟨(of_decide_eq_true worded).symm, ?_⟩
    rcases member with rfl | rfl | rfl <;> rfl
  · rintro ⟨rfl, rfl⟩
    cases fault with
    | notHexadecimal field value => cases field <;> simp [ofWording?, wording, FieldFault.value]
    | notOneCharacter value => simp [ofWording?, wording, FieldFault.value]

def ofMessage? (message : Text) : Option FieldFault :=
  (Text.clause? message).bind fun (wording, quoted) =>
    (Text.unquote? quoted).bind (ofWording? wording)

theorem ofMessage?_eq_some_iff {message : Text} {fault : FieldFault} :
    ofMessage? message = some fault ↔ message = fault.message := by
  rw [ofMessage?, Option.bind_eq_some_iff]
  constructor
  · intro accepted
    obtain ⟨⟨wording, quoted⟩, split, read⟩ := accepted
    obtain ⟨value, unquoted, worded⟩ := Option.bind_eq_some_iff.mp read
    obtain ⟨rfl, rfl⟩ := ofWording?_eq_some_iff.mp worded
    rw [(Text.clause?_eq_some_iff.mp split).1, Text.unquote?_eq_some_iff.mp unquoted, message_eq]
  · rintro rfl
    refine ⟨(fault.wording.toList, Text.quote fault.value), ?_, ?_⟩
    · exact Text.clause?_eq_some_iff.mpr ⟨fault.message_eq, fault.colon_not_mem_wording⟩
    · exact Option.bind_eq_some_iff.mpr
        ⟨fault.value, Text.unquote?_eq_some_iff.mpr rfl, ofWording?_eq_some_iff.mpr ⟨rfl, rfl⟩⟩

end FieldFault

namespace ListingError

def located? (message : Text) : Option (Nat × Text) :=
  (Text.clause? message).bind fun (place, cause) =>
    (("line ".toList.isPrefixOf? place).bind Text.decimal?).map (·, cause)

theorem located?_eq_some_iff {message cause : Text} {line : Nat} :
    located? message = some (line, cause) ↔
      message = "line ".toList ++ Text.decimal line ++ ": ".toList ++ cause := by
  rw [located?, Option.bind_eq_some_iff]
  constructor
  · intro accepted
    obtain ⟨⟨place, rest⟩, split, read⟩ := accepted
    obtain ⟨n, placed, same⟩ := Option.map_eq_some_iff.mp read
    obtain ⟨rfl, rfl⟩ := Prod.mk.inj same
    obtain ⟨digits, follows, numbered⟩ := Option.bind_eq_some_iff.mp placed
    rw [(Text.clause?_eq_some_iff.mp split).1, ← Text.decimal?_eq_some_iff.mp numbered,
      List.isPrefixOf?_eq_some_iff_append_eq.mp follows]
  · rintro rfl
    have opening : ':' ∉ "line ".toList := by decide
    have number : ':' ∉ Text.decimal line := Text.not_mem_decimal line (by decide)
    have absent : ':' ∉ "line ".toList ++ Text.decimal line :=
      List.not_mem_append opening number
    have follows : "line ".toList.isPrefixOf? ("line ".toList ++ Text.decimal line) =
        some (Text.decimal line) :=
      List.isPrefixOf?_eq_some_iff_append_eq.mpr rfl
    refine ⟨("line ".toList ++ Text.decimal line, cause),
      Text.clause?_eq_some_iff.mpr ⟨rfl, absent⟩, ?_⟩
    exact Option.map_eq_some_iff.mpr ⟨line,
      Option.bind_eq_some_iff.mpr ⟨_, follows, Text.decimal?_eq_some_iff.mpr rfl⟩, rfl⟩

def ofMessage? (message : Text) : Option ListingError :=
  (located? message).bind fun (line, cause) =>
    if cause = "not valid UTF-8".toList then some (.encoding line)
    else (FieldFault.ofMessage? cause).map (.field line)

theorem message_encoding (line : Nat) :
    (encoding line).message =
      "line ".toList ++ Text.decimal line ++ ": ".toList ++ "not valid UTF-8".toList := by
  have cause : ": not valid UTF-8".toList = ": ".toList ++ "not valid UTF-8".toList := by decide
  rw [List.append_assoc _ ": ".toList, ← cause]
  rfl

theorem ofMessage?_eq_some_iff {message : Text} {error : ListingError} :
    ofMessage? message = some error ↔ error.line?.isSome ∧ message = error.message := by
  rw [ofMessage?, Option.bind_eq_some_iff]
  constructor
  · intro accepted
    obtain ⟨⟨line, cause⟩, found, read⟩ := accepted
    rw [located?_eq_some_iff] at found
    dsimp only at read
    split at read
    next encoded =>
      cases read
      exact ⟨rfl, by rw [found, encoded, message_encoding]⟩
    next =>
      obtain ⟨fault, worded, rfl⟩ := Option.map_eq_some_iff.mp read
      exact ⟨rfl, by rw [found, FieldFault.ofMessage?_eq_some_iff.mp worded]; rfl⟩
  · intro named
    obtain ⟨located, rfl⟩ := named
    cases error with
    | field line fault =>
        have worded := FieldFault.ofMessage?_eq_some_iff.mpr (Eq.refl fault.message)
        have other : fault.message ≠ "not valid UTF-8".toList := by
          intro same
          have unworded : FieldFault.ofMessage? "not valid UTF-8".toList = none := by decide
          rw [same, unworded] at worded
          cases worded
        refine ⟨(line, fault.message), located?_eq_some_iff.mpr rfl, ?_⟩
        exact (if_neg other).trans (Option.map_eq_some_iff.mpr ⟨fault, worded, rfl⟩)
    | encoding line =>
        exact ⟨_, located?_eq_some_iff.mpr (message_encoding line), if_pos rfl⟩
    | stream message => cases located

theorem hasNoControl_message {error : ListingError} (located : error.line?.isSome) :
    Text.hasNoControl error.message = true := by
  have opening : Text.hasNoControl "line ".toList = true := by decide
  have colon : Text.hasNoControl ": ".toList = true := by decide
  have placed (line : Nat) {cause : Text} (plain : Text.hasNoControl cause = true) :
      Text.hasNoControl ("line ".toList ++ Text.decimal line ++ ": ".toList ++ cause) = true := by
    simp only [Text.hasNoControl_append, opening, Text.hasNoControl_decimal, colon, plain,
      Bool.and_self]
  cases error with
  | field line fault => exact placed line fault.hasNoControl_message
  | encoding line =>
      rw [message_encoding]
      exact placed line (by decide)
  | stream message => cases located

theorem message_tells_error :
    (∀ quoted value, Text.unquote? quoted = some value ↔ quoted = Text.quote value) ∧
      (∀ message error, ofMessage? message = some error ↔
        error.line?.isSome ∧ message = error.message) ∧
      (∀ error other : ListingError, error.line?.isSome → other.line?.isSome →
        (error.message = other.message ↔ error = other)) ∧
      ∀ error : ListingError, error.line?.isSome →
        Text.lines error.message = [error.message] ∧
          ∀ c ∈ error.message, Text.isControl c = false := by
  refine ⟨fun _ _ => Text.unquote?_eq_some_iff, fun _ _ => ofMessage?_eq_some_iff, ?_, ?_⟩
  · intro error other located named
    constructor
    · intro same
      have read := ofMessage?_eq_some_iff.mpr ⟨located, Eq.refl error.message⟩
      have again := ofMessage?_eq_some_iff.mpr ⟨named, same⟩
      exact Option.some.inj (read.symm.trans again)
    · rintro rfl
      rfl
  · intro error located
    have plain := hasNoControl_message located
    exact ⟨Text.lines_of_hasNoControl plain, Text.hasNoControl_iff.mp plain⟩

-- A field that holds a line feed and a quote, and one that holds the letters of their escapes.
theorem message_tells_character_from_its_escape :
    let error : ListingError := .field 12 (.notHexadecimal .size "\n\"".toList)
    let other : ListingError := .field 12 (.notHexadecimal .size "\\n\\\"".toList)
    error.line?.isSome ∧ other.line?.isSome ∧
      error.message =
        "line 12: size field is not a hexadecimal number: \"\\n\\\"\"".toList ∧
      error.message ≠ other.message ∧ ofMessage? error.message = some error ∧
      Text.lines error.message = [error.message] := by
  intro error other
  obtain ⟨-, read, injective, plain⟩ := message_tells_error
  have located : error.line?.isSome := rfl
  have named : other.line?.isSome := rfl
  have differ : error ≠ other := by decide
  refine ⟨located, named, by decide, ?_, ?_, (plain error located).1⟩
  · rwa [ne_eq, injective error other located named]
  · exact (read error.message error).mpr ⟨located, rfl⟩

end ListingError

end KernelSymbols
