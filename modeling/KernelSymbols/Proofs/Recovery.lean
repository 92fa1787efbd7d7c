import KernelSymbols.Proofs.Growth

set_option autoImplicit false

namespace KernelSymbols.Collector

variable (excludes : Text → Bool)

def feed (collector : Collector) (lines : List Text) : Collector :=
  collector.run excludes (lines.map Step.addLine)

def reports (collector : Collector) (lines : List Text) : List Outcome :=
  collector.outcomes excludes (lines.map Step.addLine)

def taken (collector : Collector) (lines : List Text) : List Text :=
  let reported := lines.zip (collector.reports excludes lines)
  (reported.filter fun (_, report) => report.isOk).map Prod.fst

theorem feed_cons (collector : Collector) (line : Text) (rest : List Text) :
    collector.feed excludes (line :: rest) =
      (collector.addLine excludes line).1.feed excludes rest := rfl

theorem reports_cons (collector : Collector) (line : Text) (rest : List Text) :
    collector.reports excludes (line :: rest) =
      (collector.addLine excludes line).2 ::
        (collector.addLine excludes line).1.reports excludes rest := rfl

theorem feed_append (collector : Collector) (before after : List Text) :
    collector.feed excludes (before ++ after) =
      (collector.feed excludes before).feed excludes after := by
  rw [feed, List.map_append, run_append]
  rfl

theorem taken_cons (collector : Collector) (line : Text) (rest : List Text) :
    collector.taken excludes (line :: rest) =
      match (collector.addLine excludes line).2 with
      | .ok () => line :: (collector.addLine excludes line).1.taken excludes rest
      | .error _ => (collector.addLine excludes line).1.taken excludes rest := by
  rw [taken, reports_cons, List.zip_cons_cons]
  dsimp only
  rw [List.filter_cons]
  rcases (collector.addLine excludes line).2 with error | _ <;> rfl

theorem lines_feed (collector : Collector) (lines : List Text) :
    (collector.feed excludes lines).tally.lines = collector.tally.lines + lines.length := by
  induction lines generalizing collector with
  | nil => rfl
  | cons line rest ih =>
      rw [feed_cons, ih, lines_addLine, List.length_cons, Nat.add_assoc, Nat.add_comm 1]

theorem reports_eq (collector : Collector) (lines : List Text) :
    collector.reports excludes lines =
      lines.mapIdx fun index line =>
        (Verdict.ofLine excludes line).outcome (collector.tally.lines + index + 1) := by
  induction lines generalizing collector with
  | nil => rfl
  | cons line rest ih =>
      rw [reports_cons, List.mapIdx_cons, ih, lines_addLine]
      simp only [Nat.add_zero, Nat.add_assoc, Nat.add_comm 1]
      rfl

-- Two collectors that differ at most in the number of lines that they have seen.
structure Agree (left right : Collector) : Prop where
  table : left.table = right.table
  retained : left.tally.retained = right.tally.retained
  malformed : left.tally.malformed = right.tally.malformed
  excluded : left.tally.excluded = right.tally.excluded

variable {left right : Collector}

theorem Agree.addLine (agree : Agree left right) (line : Text) :
    Agree (left.addLine excludes line).1 (right.addLine excludes line).1 := by
  obtain ⟨table, retained, malformed, excluded⟩ := agree
  rw [Collector.addLine, Collector.addLine]
  cases Verdict.ofLine excludes line <;>
    exact ⟨by simp [note, countLine, table], by simp [note, countLine, retained],
      by simp [note, countLine, malformed], by simp [note, countLine, excluded]⟩

theorem Agree.addLine_left (agree : Agree left right) {line : Text} {error : ListingError}
    (reported : (left.addLine excludes line).2 = .error error) :
    Agree (left.addLine excludes line).1 right := by
  rw [Collector.addLine] at reported ⊢
  cases verdict : Verdict.ofLine excludes line with
  | faulty fault => exact ⟨agree.table, agree.retained, agree.malformed, agree.excluded⟩
  | _ => rw [verdict] at reported; cases reported

theorem agree_taken (agree : Agree left right) (lines : List Text) :
    Agree (left.feed excludes lines) (right.feed excludes (left.taken excludes lines)) := by
  induction lines generalizing left right with
  | nil => exact agree
  | cons line rest ih =>
      rw [feed_cons, taken_cons]
      cases reported : (left.addLine excludes line).2 with
      | error error => exact ih (agree.addLine_left excludes reported)
      | ok => exact ih (agree.addLine excludes line)

theorem feed_leaves_line_count (lines : List Text) :
    let fed := ({} : Collector).feed excludes lines
    let again := ({} : Collector).feed excludes (({} : Collector).taken excludes lines)
    (fed.table = again.table ∧ fed.tally.retained = again.tally.retained ∧
        fed.tally.malformed = again.tally.malformed ∧
        fed.tally.excluded = again.tally.excluded ∧ fed.tally.lines = lines.length) ∧
      ({} : Collector).reports excludes lines =
        lines.mapIdx (fun index line => (Verdict.ofLine excludes line).outcome (index + 1)) ∧
      ∀ (before : List Text) (line : Text),
        let verdict := Verdict.ofLine excludes line
        let now := ({} : Collector).feed excludes before
        let next := ({} : Collector).feed excludes (before ++ [line])
        next.table.toList = now.table.toList ++ verdict.entries ∧
          next.tally = now.tally + verdict.growth ∧
          (now.addLine excludes line).2 = verdict.outcome (before.length + 1) := by
  intro fed again
  have agree : Agree fed again := agree_taken excludes ⟨rfl, rfl, rfl, rfl⟩ lines
  have counted := lines_feed excludes {} lines
  refine ⟨⟨agree.table, agree.retained, agree.malformed, agree.excluded, ?_⟩, ?_, ?_⟩
  · rwa [Nat.zero_add] at counted
  · simpa using reports_eq excludes {} lines
  · intro before line verdict now next
    have step : next = (now.addLine excludes line).1 := feed_append excludes {} before [line]
    have grown := grown_addLine excludes now line
    have reached : now.tally.lines = before.length := by
      have counted := lines_feed excludes {} before
      rwa [Nat.zero_add] at counted
    rw [step, ← reached]
    exact ⟨grown.table, grown.tally, rfl⟩

end KernelSymbols.Collector
