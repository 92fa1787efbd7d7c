import KernelSymbols.Fragment
import KernelSymbols.Text.Utf8

set_option autoImplicit false

namespace KernelSymbols

/-- What a full sink does with more bytes: it reports an error, or takes none of them. -/
inductive Refusal
  | error
  | silence
deriving DecidableEq, Repr

structure Sink where
  limit : Option Nat := none
  refusal : Refusal := .error
  flushFails : Bool := false
  held : Bytes := []
  flushes : Nat := 0
deriving DecidableEq, Repr

inductive SinkError
  | full
  | nothingTaken
  | flush
deriving DecidableEq, Repr

def Refusal.cause : Refusal → SinkError
  | .error => .full
  | .silence => .nothingTaken

def SinkError.message : SinkError → Text
  | .full => "sink full".toList
  | .nothingTaken => "failed to write whole buffer".toList
  | .flush => "flush failed".toList

namespace Sink

def fitting (sink : Sink) (bytes : Bytes) : Bytes :=
  match sink.limit with
  | none => bytes
  | some limit => bytes.take (limit - sink.held.length)

def HasRoom (sink : Sink) (bytes : Bytes) : Prop :=
  ∀ most ∈ sink.limit, bytes.length ≤ most - sink.held.length

def take (sink : Sink) (bytes : Bytes) : Sink × Except SinkError Unit :=
  ({ sink with held := sink.held ++ sink.fitting bytes },
    if sink.fitting bytes = bytes then .ok () else .error sink.refusal.cause)

def takeAll : Sink → List Bytes → Sink × Except SinkError Unit
  | sink, [] => (sink, .ok ())
  | sink, piece :: rest =>
      match sink.take piece with
      | (sink, .ok ()) => sink.takeAll rest
      | failed => failed

def flush (sink : Sink) : Sink × Except SinkError Unit :=
  ({ sink with flushes := sink.flushes + 1 },
    if sink.flushFails then .error .flush else .ok ())

def write (sink : Sink) (pieces : List Bytes) : Sink × Except SinkError Unit :=
  match sink.takeAll pieces with
  | (sink, .ok ()) => sink.flush
  | failed => failed

def writeTable (sink : Sink) (table : SymbolTable) : Sink × Except SinkError Unit :=
  sink.write ((Fragment.pieces table).map Utf8.encode)

def offer (sink : Sink) (bytes : Bytes) : Sink × Except SinkError Nat :=
  if bytes ≠ [] ∧ sink.fitting bytes = [] then
    (sink, match sink.refusal with
      | .error => .error .full
      | .silence => .ok 0)
  else ({ sink with held := sink.held ++ sink.fitting bytes }, .ok (sink.fitting bytes).length)

/-- An offer of which nothing was taken is the last one. -/
def offerAll (sink : Sink) (bytes : Bytes) : Sink × Except SinkError Unit :=
  if bytes = [] then (sink, .ok ())
  else match sink.offer bytes with
    | (sink, .ok 0) => (sink, .error .nothingTaken)
    | (sink, .ok (taken + 1)) => sink.offerAll (bytes.drop (taken + 1))
    | (sink, .error error) => (sink, .error error)
termination_by bytes.length
decreasing_by
  have : bytes.length ≠ 0 := by simpa using ‹¬ bytes = []›
  simp only [List.length_drop]
  omega

def deliver : Sink → List Bytes → Sink × Except SinkError Unit
  | sink, [] => sink.flush
  | sink, fragment :: rest =>
      match sink.offerAll fragment with
      | (sink, .ok ()) => sink.deliver rest
      | failed => failed

theorem fitting_prefix (sink : Sink) (bytes : Bytes) : sink.fitting bytes <+: bytes := by
  unfold fitting
  split
  · exact List.prefix_rfl
  · exact List.take_prefix _ _

theorem fitting_eq_self_iff {sink : Sink} {bytes : Bytes} :
    sink.fitting bytes = bytes ↔ sink.HasRoom bytes := by
  unfold fitting HasRoom
  cases sink.limit with
  | none => simp
  | some most =>
      simp only [Option.mem_some_iff, forall_eq']
      refine ⟨fun whole => ?_, List.take_of_length_le⟩
      have shorter := congrArg List.length whole
      rw [List.length_take] at shorter
      omega

theorem HasRoom.of_append {sink : Sink} {left right : Bytes}
    (room : sink.HasRoom (left ++ right)) : sink.HasRoom left := by
  intro most bounded
  have both := room most bounded
  rw [List.length_append] at both
  omega

theorem fitting_append_of_ne {sink : Sink} {left : Bytes} (short : ¬ sink.HasRoom left)
    (right : Bytes) : sink.fitting (left ++ right) = sink.fitting left := by
  unfold fitting HasRoom at *
  cases bounded : sink.limit with
  | none => simp [bounded] at short
  | some most =>
      simp only [bounded, Option.mem_some_iff, forall_eq'] at short
      exact List.take_append_of_le_length (by omega)

theorem fitting_append_of_eq {sink : Sink} {left : Bytes} (h : sink.fitting left = left)
    (right : Bytes) :
    sink.fitting (left ++ right) = left ++ (sink.take left).1.fitting right := by
  have held : (sink.take left).1.held = sink.held ++ left := by simp [take, h]
  have same : (sink.take left).1.limit = sink.limit := rfl
  unfold fitting at h ⊢
  rw [same, held]
  cases bounded : sink.limit with
  | none => rfl
  | some limit =>
      simp only [bounded] at h ⊢
      rw [List.take_append, h, List.length_append, Nat.sub_sub]

theorem takeAll_eq (sink : Sink) (pieces : List Bytes) :
    sink.takeAll pieces = sink.take pieces.flatten := by
  induction pieces generalizing sink with
  | nil =>
      have : sink.fitting [] = [] := List.prefix_nil.mp (sink.fitting_prefix [])
      simp [takeAll, take, this]
  | cons piece rest ih =>
      rw [takeAll, List.flatten_cons]
      by_cases h : sink.fitting piece = piece
      · have step : sink.take piece = ({ sink with held := sink.held ++ piece }, .ok ()) := by
          simp [take, h]
        have split := fitting_append_of_eq h rest.flatten
        rw [step] at split
        rw [step]
        dsimp only
        rw [ih, take, take, split]
        simp only [List.append_cancel_left_eq, List.append_assoc]
      · have step : sink.take piece =
            ({ sink with held := sink.held ++ sink.fitting piece }, .error sink.refusal.cause) := by
          simp [take, h]
        have short := mt fitting_eq_self_iff.mpr h
        have whole : sink.fitting (piece ++ rest.flatten) ≠ piece ++ rest.flatten :=
          fun same => short (fitting_eq_self_iff.mp same).of_append
        rw [step, take, if_neg whole, fitting_append_of_ne short]

theorem write_of_room {sink : Sink} {pieces : List Bytes} (room : sink.HasRoom pieces.flatten) :
    sink.write pieces =
      ({ sink with held := sink.held ++ pieces.flatten, flushes := sink.flushes + 1 },
        if sink.flushFails then .error .flush else .ok ()) := by
  have whole := fitting_eq_self_iff.mpr room
  rw [write, takeAll_eq, take, if_pos whole, whole]
  rfl

theorem write_of_no_room {sink : Sink} {pieces : List Bytes}
    (short : ¬ sink.HasRoom pieces.flatten) :
    sink.write pieces =
      ({ sink with held := sink.held ++ sink.fitting pieces.flatten },
        .error sink.refusal.cause) := by
  rw [write, takeAll_eq, take, if_neg (mt fitting_eq_self_iff.mp short)]

theorem write_eq_ok_iff {sink : Sink} {pieces : List Bytes} :
    (sink.write pieces).2 = .ok () ↔ sink.HasRoom pieces.flatten ∧ sink.flushFails = false := by
  by_cases room : sink.HasRoom pieces.flatten
  · cases fails : sink.flushFails <;> simp [write_of_room room, room, fails]
  · simp [write_of_no_room room, room]

-- What a short write leaves behind is a sink with no room.
theorem fitting_of_short {sink : Sink} {bytes : Bytes} (short : ¬ sink.HasRoom bytes)
    (rest : Bytes) : (sink.take bytes).1.fitting rest = [] := by
  unfold HasRoom at short
  cases bounded : sink.limit with
  | none => simp [bounded] at short
  | some limit =>
      simp only [bounded, Option.mem_some_iff, forall_eq'] at short
      simp only [take, fitting, bounded, List.length_append, List.length_take]
      have none : limit - (sink.held.length + min (limit - sink.held.length) bytes.length) = 0 := by
        omega
      rw [none, List.take_zero]

theorem take_nil (sink : Sink) : sink.take [] = (sink, .ok ()) := by
  have nothing : sink.fitting [] = [] := List.prefix_nil.mp (sink.fitting_prefix [])
  simp [take, nothing]

theorem take_refused {sink : Sink} {bytes : Bytes} (nonempty : bytes ≠ [])
    (refused : sink.fitting bytes = []) : sink.take bytes = (sink, .error sink.refusal.cause) := by
  simp [take, refused, Ne.symm nonempty]

theorem offerAll_refused {sink : Sink} {bytes : Bytes} (nonempty : bytes ≠ [])
    (refused : sink.fitting bytes = []) :
    sink.offerAll bytes = (sink, .error sink.refusal.cause) := by
  rw [offerAll, if_neg nonempty, offer, if_pos ⟨nonempty, refused⟩]
  cases sink.refusal <;> rfl

theorem offerAll_eq_take (sink : Sink) (bytes : Bytes) :
    sink.offerAll bytes = sink.take bytes := by
  by_cases empty : bytes = []
  · rw [offerAll, if_pos empty, empty, take_nil]
  by_cases refused : sink.fitting bytes = []
  · rw [offerAll_refused empty refused, take_refused empty refused]
  obtain ⟨taken, count⟩ := Nat.exists_eq_succ_of_ne_zero
    (fun none => refused (List.eq_nil_of_length_eq_zero none))
  have step : sink.offerAll bytes =
      (sink.take bytes).1.offerAll (bytes.drop (sink.fitting bytes).length) := by
    rw [offerAll, if_neg empty, offer, if_neg fun none => refused none.2, count]
    rfl
  rw [step]
  by_cases whole : sink.fitting bytes = bytes
  · rw [whole, List.drop_length, offerAll, if_pos rfl, take, if_pos whole]
  · have left : bytes.drop (sink.fitting bytes).length ≠ [] := by
      intro none
      apply whole
      exact (sink.fitting_prefix bytes).eq_of_length_le (List.drop_eq_nil_iff.mp none)
    have short := mt fitting_eq_self_iff.mpr whole
    rw [offerAll_refused left (fitting_of_short short _), take, if_neg whole]

theorem deliver_eq_write (sink : Sink) (fragments : List Bytes) :
    sink.deliver fragments = sink.write fragments := by
  induction fragments generalizing sink with
  | nil => rfl
  | cons fragment rest ih =>
      rw [deliver, write, takeAll, offerAll_eq_take]
      rcases sink.take fragment with ⟨next, (error | _)⟩
      · rfl
      · exact ih next

theorem deliver_congr (sink : Sink) {fragments others : List Bytes}
    (joined : fragments.flatten = others.flatten) :
    sink.deliver fragments = sink.deliver others := by
  rw [deliver_eq_write, deliver_eq_write, write, takeAll_eq, joined, ← takeAll_eq, ← write]

theorem deliver_nil_cons (sink : Sink) (fragments : List Bytes) :
    sink.deliver ([] :: fragments) = sink.deliver fragments :=
  deliver_congr sink rfl

end Sink

end KernelSymbols
