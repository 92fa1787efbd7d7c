import KernelSymbols.Sink

set_option autoImplicit false

namespace KernelSymbols

/-- A sink with what is still to be passed on to it. -/
structure Buffer where
  sink : Sink
  waiting : Bytes := []
deriving DecidableEq, Repr

namespace Buffer

def capacity : Nat := 8192

def spare (buffer : Buffer) : Nat := capacity - buffer.waiting.length

/-- What the sink refuses waits on. -/
def drain (buffer : Buffer) : Buffer × Except SinkError Unit :=
  match buffer.sink.offerAll buffer.waiting with
  | (sink, .ok ()) => (⟨sink, []⟩, .ok ())
  | (sink, .error error) =>
      (⟨sink, buffer.waiting.drop (sink.held.length - buffer.sink.held.length)⟩, .error error)

def makeRoom (buffer : Buffer) (size : Nat) : Buffer × Except SinkError Unit :=
  if buffer.spare < size then buffer.drain else (buffer, .ok ())

def passOn (buffer : Buffer) (bytes : Bytes) : Buffer × Except SinkError Unit :=
  let (sink, result) := buffer.sink.offerAll bytes
  ({ buffer with sink }, result)

def write (buffer : Buffer) (bytes : Bytes) : Buffer × Except SinkError Unit :=
  match buffer.makeRoom bytes.length with
  | (buffer, .ok ()) =>
      if capacity ≤ bytes.length then buffer.passOn bytes
      else ({ buffer with waiting := buffer.waiting ++ bytes }, .ok ())
  | failed => failed

def flush (buffer : Buffer) : Buffer × Except SinkError Unit :=
  match buffer.drain with
  | (buffer, .ok ()) =>
      let (sink, result) := buffer.sink.flush
      ({ buffer with sink }, result)
  | failed => failed

def deliver : Buffer → List Bytes → Buffer × Except SinkError Unit
  | buffer, [] => buffer.flush
  | buffer, piece :: rest =>
      match buffer.write piece with
      | (buffer, .ok ()) => buffer.deliver rest
      | failed => failed

/-- What the sink gets of `pieces`, whatever is written after them. -/
def Continues (sink : Sink) (pieces : List Bytes) : Buffer × Except SinkError Unit → Prop
  | (next, .ok ()) =>
      ∀ rest, sink.deliver (pieces ++ rest) = next.sink.deliver (next.waiting :: rest)
  | (next, .error error) => ∀ rest, sink.deliver (pieces ++ rest) = (next.sink, .error error)

theorem continues_drain (buffer : Buffer) :
    Continues buffer.sink [buffer.waiting] buffer.drain := by
  rw [drain]
  cases offered : buffer.sink.offerAll buffer.waiting with
  | mk sink result =>
      cases result with
      | error error =>
          intro rest
          rw [List.singleton_append, Sink.deliver, offered]
      | ok done =>
          intro rest
          rw [List.singleton_append, Sink.deliver, offered]
          exact (Sink.deliver_nil_cons sink rest).symm

theorem waiting_drain {buffer next : Buffer} (drained : buffer.drain = (next, .ok ())) :
    next.waiting = [] := by
  unfold drain at drained
  split at drained
  · cases drained
    rfl
  · cases drained

theorem continues_makeRoom (buffer : Buffer) (size : Nat) :
    Continues buffer.sink [buffer.waiting] (buffer.makeRoom size) := by
  unfold makeRoom
  split
  · exact continues_drain buffer
  · exact fun _ => rfl

theorem waiting_makeRoom {buffer next : Buffer} {size : Nat} (large : capacity ≤ size)
    (made : buffer.makeRoom size = (next, .ok ())) : next.waiting = [] := by
  unfold makeRoom at made
  split at made
  · exact waiting_drain made
  next room =>
    cases made
    have positive : 0 < capacity := by decide
    unfold spare at room
    exact List.eq_nil_of_length_eq_zero (by omega)

theorem continues_passOn {buffer : Buffer} (nothing : buffer.waiting = []) (bytes : Bytes) :
    Continues buffer.sink [bytes] (buffer.passOn bytes) := by
  rw [passOn]
  cases offered : buffer.sink.offerAll bytes with
  | mk sink result =>
      cases result with
      | error error =>
          intro rest
          rw [List.singleton_append, Sink.deliver, offered]
      | ok done =>
          intro rest
          rw [List.singleton_append, Sink.deliver, offered, nothing, Sink.deliver_nil_cons]

theorem Continues.of_deliver_eq {sink other : Sink} {pieces others : List Bytes}
    {written : Buffer × Except SinkError Unit} (continues : Continues other others written)
    (same : ∀ rest, sink.deliver (pieces ++ rest) = other.deliver (others ++ rest)) :
    Continues sink pieces written := by
  rcases written with ⟨next, (error | _)⟩
  · exact fun rest => (same rest).trans (continues rest)
  · exact fun rest => (same rest).trans (continues rest)

theorem continues_write (buffer : Buffer) (bytes : Bytes) :
    Continues buffer.sink [buffer.waiting, bytes] (buffer.write bytes) := by
  have before := continues_makeRoom buffer bytes.length
  rw [write]
  cases made : buffer.makeRoom bytes.length with
  | mk next result =>
      rw [made] at before
      cases result with
      | error error => exact fun rest => before (bytes :: rest)
      | ok done =>
          dsimp only
          split
          next large =>
            have nothing := waiting_makeRoom large made
            apply (continues_passOn nothing bytes).of_deliver_eq
            intro rest
            have emptied := before (bytes :: rest)
            rw [nothing, Sink.deliver_nil_cons] at emptied
            exact emptied
          next small =>
            intro rest
            exact (before (bytes :: rest)).trans (Sink.deliver_congr _ (by simp))

theorem seen_deliver (buffer : Buffer) (pieces : List Bytes) :
    ((buffer.deliver pieces).1.sink, (buffer.deliver pieces).2) =
      buffer.sink.deliver (buffer.waiting :: pieces) := by
  induction pieces generalizing buffer with
  | nil =>
      have drained := continues_drain buffer
      rw [deliver, flush]
      cases result : buffer.drain with
      | mk next outcome =>
          rw [result] at drained
          cases outcome with
          | error error => exact (drained []).symm
          | ok done =>
              have flushed := drained []
              rw [waiting_drain result, Sink.deliver_nil_cons] at flushed
              exact flushed.symm
  | cons piece rest ih =>
      have written := continues_write buffer piece
      rw [deliver]
      cases result : buffer.write piece with
      | mk next outcome =>
          rw [result] at written
          cases outcome with
          | error error => exact (written rest).symm
          | ok done => exact (ih next).trans (written rest).symm

end Buffer

end KernelSymbols
