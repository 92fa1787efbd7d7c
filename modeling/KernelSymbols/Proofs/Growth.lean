import KernelSymbols.Proofs.History

set_option autoImplicit false

namespace KernelSymbols

-- Whether a step ended with a line at fault, as opposed to bytes that are no text and to a failure
-- of a stream.
def Outcome.isFault : Outcome → Bool
  | .error (.field _ _) => true
  | _ => false

def Outcome.faults (outcome : Outcome) : Nat := if outcome.isFault then 1 else 0

theorem Outcome.faults_ok : Outcome.faults (.ok ()) = 0 := rfl

def Verdict.entries : Verdict → List Text
  | .retained symbol => [symbol.initializer]
  | _ => []

def Verdict.growth : Verdict → Tally
  | .malformed => { lines := 1, malformed := 1 }
  | .excluded => { lines := 1, excluded := 1 }
  | .retained _ => { lines := 1, retained := 1 }
  | .faulty _ => { lines := 1 }

namespace Collector

variable (excludes : Text → Bool)

-- How one collector comes from another: `entries` joined the table and `growth` the tally.
structure Grown (before after : Collector) (faults : Nat) (entries : List Text) (growth : Tally) :
    Prop where
  table : after.table.toList = before.table.toList ++ entries
  tally : after.tally = before.tally + growth
  retained : growth.retained = entries.length
  lines : growth.lines = growth.retained + growth.malformed + growth.excluded + faults

def Grows (before after : Collector) (faults : Nat) : Prop :=
  ∃ entries growth, Grown before after faults entries growth

theorem Grows.refl (collector : Collector) : Grows collector collector 0 :=
  ⟨[], {}, by simp, by simp [Tally.add_def], rfl, rfl⟩

theorem Grows.trans {before middle after : Collector} {first second : Nat}
    (left : Grows before middle first) (right : Grows middle after second) :
    Grows before after (first + second) := by
  obtain ⟨entries, growth, hl⟩ := left
  obtain ⟨others, gain, hr⟩ := right
  refine ⟨entries ++ others, growth + gain, ?_, ?_, ?_, ?_⟩
  · rw [hr.table, hl.table, List.append_assoc]
  · rw [hr.tally, hl.tally, Tally.add_assoc]
  · rw [List.length_append, ← hl.retained, ← hr.retained]
    rfl
  · have earlier := hl.lines
    have later := hr.lines
    simp only [Tally.add_def]
    omega

theorem grown_addLine (collector : Collector) (line : Text) :
    Grown collector (collector.addLine excludes line).1
      (collector.addLine excludes line).2.faults
      (Verdict.ofLine excludes line).entries (Verdict.ofLine excludes line).growth := by
  rw [addLine]
  cases Verdict.ofLine excludes line with
  | retained symbol => exact ⟨SymbolTable.toList_push collector.table symbol, rfl, rfl, rfl⟩
  | _ => exact ⟨(List.append_nil _).symm, rfl, rfl, rfl⟩

theorem grows_addLine (collector : Collector) (line : Text) :
    Grows collector (collector.addLine excludes line).1
      (collector.addLine excludes line).2.faults :=
  ⟨_, _, grown_addLine excludes collector line⟩

theorem grows_addBytes (collector : Collector) (line : Bytes) :
    Grows collector (collector.addBytes excludes line).1
      (collector.addBytes excludes line).2.faults := by
  rw [addBytes]
  cases Utf8.decode line with
  | none => exact Grows.refl collector
  | some text => exact grows_addLine excludes collector text

theorem grows_addAll (collector : Collector) (lines : List Bytes) :
    Grows collector (collector.addAll excludes lines).1
      (collector.addAll excludes lines).2.faults := by
  induction lines generalizing collector with
  | nil => exact Grows.refl collector
  | cons line rest ih =>
      have first := grows_addBytes excludes collector line
      rw [addAll]
      -- The lines that were not at fault add nothing to the count, and the first other one ends it.
      rcases added : collector.addBytes excludes line with ⟨next, (error | _)⟩
      · rwa [added] at first
      · rw [added] at first
        have both := first.trans (ih next)
        rwa [Outcome.faults_ok, Nat.zero_add] at both

theorem faults_read (collector : Collector) (chunks : List Chunk) :
    (collector.read excludes chunks).2.faults =
      (collector.addAll excludes (Chunk.lines chunks)).2.faults := by
  rcases Chunk.delivered_or_failure chunks with
    delivered | ⟨before, message, after, rfl, delivered⟩
  · rw [read_eq_addAll excludes delivered, Chunk.lines_of_delivered delivered]
  · rw [read_append_failure excludes delivered, Chunk.lines_append_failure delivered]
    rcases collector.addAll excludes _ with ⟨next, (error | _)⟩ <;> rfl

theorem grows_step (collector : Collector) (step : Step) :
    Grows collector (collector.step excludes step).1 (collector.step excludes step).2.faults := by
  cases step with
  | addLine line => exact grows_addLine excludes collector line
  | read chunks =>
      rw [Collector.step, fst_read, faults_read]
      exact grows_addAll excludes collector (Chunk.lines chunks)
  | write sink =>
      rw [Collector.step]
      rcases (sink.writeTable collector.table).2 with error | _ <;> exact Grows.refl collector

def outcomes (collector : Collector) : List Step → List Outcome
  | [] => []
  | step :: rest =>
      (collector.step excludes step).2 :: outcomes (collector.step excludes step).1 rest

theorem grows_run (collector : Collector) (steps : List Step) :
    Grows collector (collector.run excludes steps)
      ((collector.outcomes excludes steps).countP Outcome.isFault) := by
  induction steps generalizing collector with
  | nil => exact Grows.refl collector
  | cons step rest ih =>
      have both := (grows_step excludes collector step).trans (ih (collector.step excludes step).1)
      rwa [Nat.add_comm, Outcome.faults, ← List.countP_cons] at both

theorem run_append (collector : Collector) (before after : List Step) :
    collector.run excludes (before ++ after) = (collector.run excludes before).run excludes after :=
  List.foldl_append

theorem Grows.counts {before after : Collector} {faults : Nat} (grows : Grows before after faults) :
    before.table.toList <+: after.table.toList ∧
      before.tally.lines ≤ after.tally.lines ∧
      before.tally.retained ≤ after.tally.retained ∧
      before.tally.malformed ≤ after.tally.malformed ∧
      before.tally.excluded ≤ after.tally.excluded := by
  obtain ⟨entries, growth, grown⟩ := grows
  rw [grown.tally, grown.table, Tally.add_def]
  exact ⟨List.prefix_append _ _, Nat.le_add_right _ _, Nat.le_add_right _ _, Nat.le_add_right _ _,
    Nat.le_add_right _ _⟩

theorem Grows.balance {after : Collector} {faults : Nat} (grows : Grows {} after faults) :
    after.tally.retained = after.table.size ∧
      after.tally.lines =
        after.tally.retained + after.tally.malformed + after.tally.excluded + faults := by
  obtain ⟨entries, growth, grown⟩ := grows
  have entered := grown.table
  rw [SymbolTable.toList_empty, List.nil_append] at entered
  rw [grown.tally, Tally.zero_add, ← SymbolTable.length_toList, entered]
  exact ⟨grown.retained, grown.lines⟩

theorem balance_counts {lines : List Bytes} (sound : Listing.Sound excludes lines) :
    (Listing.counts excludes lines).lines =
      (Listing.counts excludes lines).retained + (Listing.counts excludes lines).malformed +
        (Listing.counts excludes lines).excluded := by
  have balance := (grows_addAll excludes {} lines).balance.2
  rw [addAll_of_sound excludes sound] at balance
  simpa [withLines, Outcome.faults_ok] using balance

theorem counts_of_history :
    (∀ steps : List Step,
      let now := ({} : Collector).run excludes steps
      now.tally.retained = now.table.size ∧
        now.tally.lines =
          now.tally.retained + now.tally.malformed + now.tally.excluded +
            (({} : Collector).outcomes excludes steps).countP Outcome.isFault) ∧
      (∀ before after : List Step,
        let earlier := ({} : Collector).run excludes before
        let later := ({} : Collector).run excludes (before ++ after)
        earlier.table.toList <+: later.table.toList ∧
          earlier.tally.lines ≤ later.tally.lines ∧
          earlier.tally.retained ≤ later.tally.retained ∧
          earlier.tally.malformed ≤ later.tally.malformed ∧
          earlier.tally.excluded ≤ later.tally.excluded) ∧
      ∀ (collector : Collector) (sink : Sink),
        (collector.step excludes (.write sink)).1 = collector := by
  refine ⟨?_, ?_, ?_⟩
  · intro steps now
    exact (grows_run excludes {} steps).balance
  · intro before after earlier later
    have growth := (grows_run excludes earlier after).counts
    rwa [← run_append] at growth
  · intro collector sink
    rfl

end Collector

end KernelSymbols
