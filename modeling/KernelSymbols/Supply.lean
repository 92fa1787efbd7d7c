import KernelSymbols.Reader

set_option autoImplicit false

namespace KernelSymbols

/-- What an open file hands out: its pieces one after the other, or zero bytes without end. -/
inductive Supply
  | finite (chunks : List Chunk)
  | zeros
deriving DecidableEq, Repr

namespace Supply

def next? : Supply → Option (Chunk × Supply)
  | .finite [] => none
  | .finite (chunk :: rest) => some (chunk, .finite rest)
  | .zeros => some (.data [0], .zeros)

def gather : Supply → Option (Except Text Bytes)
  | .finite chunks => some (Chunk.gather chunks)
  | .zeros => none

variable (excludes : Text → Bool)

inductive Feeds : Reader → Supply → Reader → Prop
  | ended {reader : Reader} {supply : Supply} (empty : supply.next? = none) :
      Feeds reader supply reader
  | stopped {collector : Collector} {error : ListingError} {supply : Supply} :
      Feeds (.stopped collector error) supply (.stopped collector error)
  | step {collector : Collector} {begun : Bytes} {supply rest : Supply} {chunk : Chunk}
      {final : Reader} (next : supply.next? = some (chunk, rest))
      (more : Feeds ((Reader.reading collector begun).takeChunk excludes chunk) rest final) :
      Feeds (.reading collector begun) supply final

def feed (reader : Reader) : Supply → Option Reader
  | .finite chunks => some (chunks.foldl (Reader.takeChunk excludes) reader)
  | .zeros =>
      match reader with
      | .reading .. => none
      | .stopped .. => some reader

theorem feeds_finite (reader : Reader) (chunks : List Chunk) :
    Feeds excludes reader (.finite chunks) (chunks.foldl (Reader.takeChunk excludes) reader) := by
  induction chunks generalizing reader with
  | nil => exact .ended rfl
  | cons chunk rest ih =>
      cases reader with
      | reading collector begun => exact .step rfl (ih _)
      | stopped collector error =>
          rw [Reader.foldl_takeChunk_stopped]
          exact .stopped

-- A zero byte ends no line, so the reader only gets a longer line begun.
theorem takeChunk_zero (collector : Collector) (begun : Bytes) :
    (Reader.reading collector begun).takeChunk excludes (.data [0]) =
      .reading collector (0 :: begun) := by
  have unbroken : lineFeed ∉ ([0] : Bytes) := by decide
  exact Reader.takeBytes_reading excludes unbroken collector begun

theorem feed_eq_some_iff {reader final : Reader} {supply : Supply} :
    supply.feed excludes reader = some final ↔ Feeds excludes reader supply final := by
  constructor
  · intro fed
    cases supply with
    | finite chunks =>
        cases fed
        exact feeds_finite excludes reader chunks
    | zeros =>
        cases reader with
        | reading collector begun => cases fed
        | stopped collector error =>
            cases fed
            exact .stopped
  · intro feeds
    induction feeds with
    | @ended reader supply empty =>
        rcases supply with ⟨- | ⟨chunk, rest⟩⟩ | _
        · rfl
        · cases empty
        · cases empty
    | @stopped collector error supply =>
        cases supply with
        | finite chunks => exact congrArg some (Reader.foldl_takeChunk_stopped excludes ..)
        | zeros => rfl
    | @step collector begun supply rest chunk final next more ih =>
        rcases supply with ⟨- | ⟨chunk, rest⟩⟩ | _
        · cases next
        · cases next
          exact ih
        · cases next
          rw [takeChunk_zero] at ih
          cases ih

theorem feed_eq_none_iff {reader : Reader} {supply : Supply} :
    supply.feed excludes reader = none ↔ ∀ final, ¬ Feeds excludes reader supply final := by
  simp only [← feed_eq_some_iff, Option.eq_none_iff_forall_ne_some, ne_eq]

end Supply

end KernelSymbols
