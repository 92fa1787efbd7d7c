import KernelSymbols.Collector

set_option autoImplicit false

namespace KernelSymbols

-- Whether numbers and kind are what an entry of the table needs.
def Fields.fits (fields : Fields) : Bool :=
  Text.isHexadecimal fields.address && Text.isHexadecimal fields.size && fields.kind.length == 1

-- The first field at fault, for fields that do not fit.
def Fields.fault (fields : Fields) : FieldFault :=
  if Text.isHexadecimal fields.address = false then .notHexadecimal .address fields.address
  else if Text.isHexadecimal fields.size = false then .notHexadecimal .size fields.size
  else .notOneCharacter fields.kind

theorem Symbol.exists_fields_eq {fields : Fields} (fits : fields.fits = true) :
    ∃ symbol : Symbol, symbol.fields = fields := by
  simp only [Fields.fits, Bool.and_eq_true, beq_iff_eq, List.length_eq_one_iff] at fits
  obtain ⟨⟨address_digits, size_digits⟩, kind, hkind⟩ := fits
  exact ⟨⟨fields.address, fields.size, kind, fields.name, address_digits, size_digits⟩,
    by simp [Symbol.fields, ← hkind]⟩

theorem Symbol.ofFields_of_not_fits {fields : Fields} (misfit : fields.fits = false) :
    Symbol.ofFields fields = .error fields.fault := by
  rw [Symbol.ofFields, Fields.fault]
  by_cases address : Text.isHexadecimal fields.address = true
  · by_cases size : Text.isHexadecimal fields.size = true
    · have kind : fields.kind.length ≠ 1 := by
        simpa [Fields.fits, address, size] using misfit
      rcases hkind : fields.kind with _ | ⟨first, _ | ⟨second, rest⟩⟩ <;>
        simp_all
    · simp [address, size]
  · simp [address]

def ListingError.line? : ListingError → Option Nat
  | .field line _ => some line
  | .encoding line => some line
  | .stream _ => none

def ListingError.renumber (move : Nat → Nat) : ListingError → ListingError
  | .field line fault => .field (move line) fault
  | .encoding line => .encoding (move line)
  | .stream message => .stream message

namespace Listing

variable (excludes : Text → Bool)

def fields? (line : Bytes) : Option Fields := (Utf8.decode line).bind Fields.ofLine?

def isMalformed (line : Bytes) : Bool := (Utf8.decode line).isSome && (fields? line).isNone

def isExcluded (line : Bytes) : Bool := (fields? line).any fun fields => excludes fields.name

def kept? (line : Bytes) : Option Fields :=
  (fields? line).filter fun fields => !excludes fields.name

def isFatal (line : Bytes) : Bool :=
  (Utf8.decode line).isNone || (kept? excludes line).any fun fields => !fields.fits

def report (number : Nat) (line : Bytes) : ListingError :=
  match kept? excludes line with
  | none => .encoding number
  | some fields => .field number fields.fault

theorem report_ne_stream (number : Nat) (line : Bytes) (message : Text) :
    report excludes number line ≠ .stream message := by
  rw [report]
  split <;> simp

theorem line?_report (number : Nat) (line : Bytes) :
    (report excludes number line).line? = some number := by
  rw [report]
  split <;> rfl

theorem renumber_report (move : Nat → Nat) (number : Nat) (line : Bytes) :
    (report excludes number line).renumber move = report excludes (move number) line := by
  unfold report
  split <;> rfl

def symbol? (line : Bytes) : Option Symbol :=
  (kept? excludes line).bind fun fields => (Symbol.ofFields fields).toOption

theorem symbol?_eq_some_iff {line : Bytes} {symbol : Symbol} :
    symbol? excludes line = some symbol ↔ kept? excludes line = some symbol.fields := by
  have checked (fields : Fields) :
      (Symbol.ofFields fields).toOption = some symbol ↔ fields = symbol.fields := by
    rw [← Symbol.ofFields_eq_ok_iff]
    cases Symbol.ofFields fields <;> simp [Except.toOption]
  simp [symbol?, Option.bind_eq_some_iff, checked]

theorem text_of_symbol? {line : Bytes} {symbol : Symbol}
    (found : symbol? excludes line = some symbol) :
    ∃ text, Utf8.decode line = some text ∧ Fields.ofLine? text = some symbol.fields ∧
      excludes symbol.name = false := by
  have kept := (symbol?_eq_some_iff excludes).mp found
  obtain ⟨split, included⟩ := Option.filter_eq_some_iff.mp kept
  obtain ⟨text, decoded, split⟩ := Option.bind_eq_some_iff.mp split
  exact ⟨text, decoded, split, by simpa [Symbol.fields] using included⟩

theorem fields?_of_decode {line : Bytes} {text : Text} (decoded : Utf8.decode line = some text) :
    fields? line = Fields.ofLine? text := by
  simp [fields?, decoded]

theorem judgement_of_not_fatal {line : Bytes} (sound : isFatal excludes line = false) :
    ∃ text, Utf8.decode line = some text ∧
      ((Verdict.ofLine excludes text = .malformed ∧ isMalformed line = true ∧
          isExcluded excludes line = false ∧ kept? excludes line = none) ∨
        (Verdict.ofLine excludes text = .excluded ∧ isMalformed line = false ∧
          isExcluded excludes line = true ∧ kept? excludes line = none) ∨
        ∃ symbol : Symbol, Verdict.ofLine excludes text = .retained symbol ∧
          isMalformed line = false ∧ isExcluded excludes line = false ∧
          kept? excludes line = some symbol.fields) := by
  simp only [isFatal, Bool.or_eq_false_iff, Option.isNone_eq_false_iff,
    Option.isSome_iff_exists] at sound
  obtain ⟨⟨text, decoded⟩, fitting⟩ := sound
  refine ⟨text, decoded, ?_⟩
  have split := fields?_of_decode decoded
  cases hfields : Fields.ofLine? text with
  | none =>
      left
      rw [hfields] at split
      exact ⟨Verdict.ofLine_eq_malformed_iff.mpr hfields, by simp [isMalformed, decoded, split],
        by simp [isExcluded, split], by simp [kept?, split]⟩
  | some fields =>
      right
      rw [hfields] at split
      have formed : isMalformed line = false := by simp [isMalformed, split]
      by_cases name : excludes fields.name = true
      · left
        exact ⟨Verdict.ofLine_eq_excluded_iff.mpr ⟨fields, hfields, name⟩, formed,
          by simp [isExcluded, split, name], by simp [kept?, split, name]⟩
      · right
        have kept : kept? excludes line = some fields := by simp [kept?, split, name]
        have fits : fields.fits = true := by simpa [kept] using fitting
        obtain ⟨symbol, rfl⟩ := Symbol.exists_fields_eq fits
        have included : excludes symbol.name = false := by simpa [Symbol.fields] using name
        exact ⟨symbol, Verdict.ofLine_eq_retained_iff.mpr ⟨hfields, included⟩, formed,
          by simpa [isExcluded, split] using name, kept⟩

theorem judgement_of_fatal {line : Bytes} (fatal : isFatal excludes line = true) :
    (Utf8.decode line = none ∧ kept? excludes line = none) ∨
      ∃ text fields, Utf8.decode line = some text ∧ kept? excludes line = some fields ∧
        Verdict.ofLine excludes text = .faulty fields.fault := by
  cases decoded : Utf8.decode line with
  | none =>
      left
      simp [kept?, fields?, decoded]
  | some text =>
      right
      simp only [isFatal, decoded, Option.isNone_some, Bool.false_or, Option.any_eq_true] at fatal
      obtain ⟨fields, kept, misfit⟩ := fatal
      have filtered := kept
      rw [kept?, fields?_of_decode decoded, Option.filter_eq_some_iff] at filtered
      obtain ⟨split, name⟩ := filtered
      have fault := Symbol.ofFields_of_not_fits (by simpa using misfit)
      refine ⟨text, fields, rfl, kept, ?_⟩
      simp only [Bool.not_eq_true'] at name
      simp [Verdict.ofLine, Verdict.ofFields, split, name, fault]

end Listing

end KernelSymbols
