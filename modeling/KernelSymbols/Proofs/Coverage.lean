import KernelSymbols.Proofs.Generation.Strictness

set_option autoImplicit false

namespace KernelSymbols.Exclusion

inductive Edit
  | new (prefixes : List Text)
  | nestedFunctions
  | push (start : Text)
deriving DecidableEq, Repr

def edit (exclusion : Exclusion) : Edit → Exclusion
  | .new prefixes => ⟨prefixes⟩
  | .nestedFunctions => nestedFunctions
  | .push start => exclusion.push start

def built (edits : List Edit) : Exclusion := edits.foldl edit {}

namespace Edit

def starts : Edit → List Text
  | .new prefixes => prefixes
  | .nestedFunctions => ["__func__.".toList]
  | .push start => [start]

def keeps : Edit → Bool
  | .push _ => true
  | _ => false

end Edit

theorem mem_prefixes_edit {exclusion : Exclusion} {edit : Edit} {start : Text} :
    start ∈ (exclusion.edit edit).prefixes ↔
      start ∈ edit.starts ∨ edit.keeps = true ∧ start ∈ exclusion.prefixes := by
  cases edit with
  | new prefixes => simp [Exclusion.edit, Edit.starts, Edit.keeps]
  | nestedFunctions => simp [Exclusion.edit, nestedFunctions, Edit.starts, Edit.keeps]
  | push other => simp [Exclusion.edit, Edit.starts, Edit.keeps, or_comm]

theorem built_concat (edits : List Edit) (last : Edit) :
    built (edits ++ [last]) = (built edits).edit last :=
  List.foldl_append

theorem mem_prefixes_built {edits : List Edit} {start : Text} :
    start ∈ (built edits).prefixes ↔
      ∃ before edit after, edits = before ++ edit :: after ∧ start ∈ edit.starts ∧
        ∀ later ∈ after, later.keeps = true := by
  induction edits using List.reverseRecOn with
  | nil => simp [built]
  | append_singleton edits last ih =>
      rw [built_concat, mem_prefixes_edit, ih]
      constructor
      · rintro (given | ⟨keeps, before, edit, after, rfl, given, later⟩)
        · exact ⟨edits, last, [], rfl, given, by simp⟩
        · exact ⟨before, edit, after ++ [last], by simp, given,
            by simpa [or_imp, forall_and, keeps] using later⟩
      · rintro ⟨before, edit, after, split, given, later⟩
        rcases List.eq_nil_or_concat after with rfl | ⟨middle, final, rfl⟩
        · obtain ⟨-, same⟩ := List.append_inj' split rfl
          cases same
          exact Or.inl given
        · have regrouped : edits ++ [last] = (before ++ edit :: middle) ++ [final] := by
            simpa using split
          obtain ⟨rfl, same⟩ := List.append_inj' regrouped rfl
          cases same
          exact Or.inr ⟨later last (by simp), before, edit, middle, rfl, given,
            fun other member => later other (by simp [member])⟩

def Covers (wide narrow : Exclusion) : Prop :=
  ∀ start ∈ narrow.prefixes, ∃ shorter ∈ wide.prefixes, shorter <+: start

instance (wide narrow : Exclusion) : Decidable (wide.Covers narrow) := by
  unfold Covers
  infer_instance

theorem covers_iff_stricter {wide narrow : Exclusion} :
    wide.Covers narrow ↔ Stricter narrow.excludes wide.excludes := by
  constructor
  · intro covers name excluded
    rw [excludes_eq_true_iff] at excluded ⊢
    obtain ⟨start, member, begins⟩ := excluded
    obtain ⟨shorter, given, shorter_begins⟩ := covers start member
    exact ⟨shorter, given, shorter_begins.trans begins⟩
  · intro stricter start member
    have excluded := (excludes_eq_true_iff narrow start).mpr ⟨start, member, List.prefix_rfl⟩
    exact (excludes_eq_true_iff wide start).mp (stricter start excluded)

theorem excludes_eq_iff {first second : Exclusion} :
    (∀ name, first.excludes name = second.excludes name) ↔
      first.Covers second ∧ second.Covers first := by
  constructor
  · intro same
    exact ⟨covers_iff_stricter.mpr fun name excluded => (same name).trans excluded,
      covers_iff_stricter.mpr fun name excluded => (same name).symm.trans excluded⟩
  · rintro ⟨covers, covered⟩ name
    exact Bool.eq_iff_iff.mpr
      ⟨covers_iff_stricter.mp covered name, covers_iff_stricter.mp covers name⟩

theorem Covers.of_subset {wide narrow : Exclusion}
    (subset : ∀ start ∈ narrow.prefixes, start ∈ wide.prefixes) : wide.Covers narrow :=
  fun start member => ⟨start, subset start member, List.prefix_rfl⟩

theorem excludes_nothing_iff {exclusion : Exclusion} :
    (∀ name, exclusion.excludes name = false) ↔ exclusion.isEmpty = true := by
  constructor
  · intro nothing
    rw [isEmpty, List.isEmpty_iff, List.eq_nil_iff_forall_not_mem]
    intro start member
    have excluded := (excludes_eq_true_iff exclusion start).mpr ⟨start, member, List.prefix_rfl⟩
    rw [nothing start] at excluded
    cases excluded
  · intro empty name
    rw [isEmpty, List.isEmpty_iff] at empty
    simp [excludes, empty]

theorem excludes_everything_iff {exclusion : Exclusion} :
    (∀ name, exclusion.excludes name = true) ↔ [] ∈ exclusion.prefixes := by
  constructor
  · intro everything
    obtain ⟨start, member, begins⟩ := (excludes_eq_true_iff exclusion []).mp (everything [])
    rwa [List.prefix_nil.mp begins] at member
  · intro member name
    exact (excludes_eq_true_iff exclusion name).mpr ⟨[], member, List.nil_prefix⟩

theorem excludes_of_built (edits others : List Edit) :
    let first := built edits
    let second := built others
    ((∀ name, first.excludes name = second.excludes name) ↔
        (∀ start ∈ first.prefixes, ∃ shorter ∈ second.prefixes, shorter <+: start) ∧
          ∀ start ∈ second.prefixes, ∃ shorter ∈ first.prefixes, shorter <+: start) ∧
      ((∀ start, start ∈ first.prefixes ↔ start ∈ second.prefixes) →
        ∀ name, first.excludes name = second.excludes name) ∧
      (∀ start longer, start ∈ first.prefixes → start <+: longer →
        (∀ other, other ∈ second.prefixes ↔ other = longer ∨ other ∈ first.prefixes) →
        ∀ name, first.excludes name = second.excludes name) ∧
      ((∀ name, first.excludes name = false) ↔ first.isEmpty = true) ∧
      ((∀ name, first.excludes name = true) ↔ [] ∈ first.prefixes) ∧
      ∀ start, start ∈ first.prefixes ↔
        ∃ before edit after, edits = before ++ edit :: after ∧ start ∈ edit.starts ∧
          ∀ later ∈ after, later.keeps = true := by
  intro first second
  refine ⟨?_, ?_, ?_, excludes_nothing_iff, excludes_everything_iff,
    fun start => mem_prefixes_built⟩
  · rw [excludes_eq_iff, and_comm]
    rfl
  · intro same
    exact excludes_eq_iff.mpr
      ⟨.of_subset fun start => (same start).mpr, .of_subset fun start => (same start).mp⟩
  · intro start longer given begins added
    refine excludes_eq_iff.mpr ⟨?_, .of_subset fun other member => (added other).mpr (.inr member)⟩
    intro other member
    rcases (added other).mp member with rfl | kept
    · exact ⟨start, given, begins⟩
    · exact ⟨other, kept, List.prefix_rfl⟩

-- What was pushed before the first filter began anew is gone; the second has its prefixes in
-- another order, one of them twice, and a longer one besides.
theorem excludes_of_filters_built_apart :
    let first := built [.push "zz".toList, .nestedFunctions, .push "a".toList]
    let second := built [.new ["a".toList, "__func__.".toList], .push "a".toList]
    let third := built [.new ["a".toList, "abc".toList, "__func__.".toList]]
    (∀ name, first.excludes name = second.excludes name) ∧
      (∀ name, first.excludes name = third.excludes name) ∧
      ¬ ∀ name, first.excludes name = false := by
  intro first second third
  have ours : first.prefixes = ["__func__.".toList, "a".toList] := rfl
  have theirs : second.prefixes = ["a".toList, "__func__.".toList, "a".toList] := rfl
  have more : third.prefixes = ["a".toList, "abc".toList, "__func__.".toList] := rfl
  obtain ⟨-, reordered, -, empty, -⟩ := excludes_of_built
    [.push "zz".toList, .nestedFunctions, .push "a".toList]
    [.new ["a".toList, "__func__.".toList], .push "a".toList]
  obtain ⟨-, -, extended, -⟩ := excludes_of_built
    [.push "zz".toList, .nestedFunctions, .push "a".toList]
    [.new ["a".toList, "abc".toList, "__func__.".toList]]
  have same : ∀ start, start ∈ first.prefixes ↔ start ∈ second.prefixes := by
    intro start
    simp only [ours, theirs, List.mem_cons, List.not_mem_nil, or_false]
    grind
  have added : ∀ other, other ∈ third.prefixes ↔ other = "abc".toList ∨ other ∈ first.prefixes := by
    intro other
    simp only [ours, more, List.mem_cons, List.not_mem_nil, or_false]
    grind
  have given : "a".toList ∈ first.prefixes := by simp [ours]
  refine ⟨reordered same, extended "a".toList "abc".toList given (by decide) added, ?_⟩
  rw [empty]
  decide

end KernelSymbols.Exclusion
