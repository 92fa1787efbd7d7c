import KernelSymbols.Log

set_option autoImplicit false

namespace KernelSymbols.Log

theorem Event.line_of_message {event : Event} (start : Text) {opening rest : Text}
    (message : event.message = start ++ rest)
    (opens : event.level.name.map Char.toUpper ++ ' ' :: event.target ++ ": ".toList ++ start =
      opening) :
    event.line = opening ++ rest := by
  rw [line, message, ← opens]
  simp only [List.append_assoc, List.cons_append]

namespace Level

theorem toLower_of_not_isUpper {c : Char} (other : ¬ c.isUpper = true) : c.toLower = c := by
  apply dif_neg
  intro within
  exact other (decide_eq_true within)

theorem isAlphanum_of_toLower {c : Char} (lower : c.toLower.isLower = true) :
    c.isAlphanum = true := by
  have letter : c.isUpper = true ∨ c.isLower = true := by
    by_cases upper : c.isUpper = true
    · exact .inl upper
    · rw [toLower_of_not_isUpper upper] at lower
      exact .inr lower
  exact Bool.or_eq_true_iff.mpr (.inl (Bool.or_eq_true_iff.mpr letter))

theorem alphanumeric_of_named? {text : Text} {level : Level} (named : named? text = some level) :
    text ≠ [] ∧ ∀ c ∈ text, c.isAlphanum = true := by
  have found := List.find?_some named
  have lowered : level.name = text.map Char.toLower := of_decide_eq_true found
  have lower : level.name.all Char.isLower = true := by cases level <;> decide
  constructor
  · rintro rfl
    cases level <;> cases lowered
  · intro c member
    rw [lowered, List.all_eq_true] at lower
    exact isAlphanum_of_toLower (lower _ (List.mem_map_of_mem member))

theorem alphanumeric_of_ofText? {text : Text} {level : Level} (read : ofText? text = some level) :
    text ≠ [] ∧ ∀ c ∈ text, c.isAlphanum = true := by
  rcases Option.or_eq_some_iff.mp read with numbered | ⟨-, named⟩
  · have digits : text ≠ [] ∧ text.all Char.isDigit = true := by
      unfold numbered? at numbered
      split at numbered
      next digits => exact digits
      · cases numbered
    refine ⟨digits.1, ?_⟩
    intro c member
    have digit := List.all_eq_true.mp digits.2 c member
    simp [Char.isAlphanum, digit]
  · exact alphanumeric_of_named? named

theorem ofSuffix?_of_ofText? {text : Text} {level : Level} (read : ofText? text = some level) :
    ofSuffix? text = some level := by
  obtain ⟨nonempty, alphanumeric⟩ := alphanumeric_of_ofText? read
  unfold ofSuffix?
  split
  · exact absurd rfl nonempty
  · cases alphanumeric '+' List.mem_cons_self
  · exact read

end Level

namespace Filter

-- A level for all targets, or for those whose names begin with a given text.
inductive IsItem : Text → Prop
  | level {text : Text} {level : Level} (read : Level.ofText? text = some level) : IsItem text
  | targeted {target text : Text} {level : Level} (started : target.head?.any Rule.begins = true)
      (plain : '=' ∉ target) (read : Level.ofText? text = some level) :
      IsItem (target ++ '=' :: text)

def IsList (text : Text) : Prop := ∀ item ∈ items text, IsItem item

theorem ofItem_of_level {text : Text} {level : Level} (read : Level.ofText? text = some level) :
    Rule.ofItem text = .ok ⟨[], level⟩ := by
  obtain ⟨nonempty, alphanumeric⟩ := Level.alphanumeric_of_ofText? read
  have started : text.head?.any Rule.begins = true := by
    cases text with
    | nil => exact absurd rfl nonempty
    | cons c rest => simp [Rule.begins, alphanumeric c List.mem_cons_self]
  have uncut : Text.cut? '=' text = none := by
    rw [Text.cut?_eq_none_iff]
    intro equals
    cases alphanumeric '=' equals
  rw [Rule.ofItem, started, uncut, read]
  rfl

theorem ofItem_of_isItem {item : Text} (given : IsItem item) :
    ∃ rule, Rule.ofItem item = .ok rule := by
  cases given with
  | level read => exact ⟨_, ofItem_of_level read⟩
  | @targeted target text level started plain read =>
      have cut : Text.cut? '=' (target ++ '=' :: text) = some (target, text) :=
        Text.cut?_eq_some_iff.mpr ⟨rfl, plain⟩
      have head : (target ++ '=' :: text).head?.any Rule.begins = true := by
        cases target with
        | nil => cases started
        | cons c rest => exact started
      refine ⟨⟨target, level⟩, ?_⟩
      rw [Rule.ofItem, head, cut]
      dsimp only
      rw [Level.ofSuffix?_of_ofText? read]
      rfl

theorem complaint?_eq_none_iff {item : Text} :
    complaint? item = none ↔ ∃ rule, Rule.ofItem item = .ok rule := by
  rw [complaint?]
  cases Rule.ofItem item <;> simp

theorem complaints_of_isList {text : Text} (list : IsList text) : complaints text = [] := by
  apply List.filterMap_eq_nil_iff.mpr
  intro item member
  exact complaint?_eq_none_iff.mpr (ofItem_of_isItem (list item member))

-- The strict reading goes as far as the lossy one leaves nothing out.
theorem mapM_ofItem (items : List Text) :
    (items.filterMap complaint? = [] ∧
        items.mapM Rule.ofItem = .ok (items.filterMap fun item => (Rule.ofItem item).toOption)) ∨
      (items.filterMap complaint? ≠ [] ∧ ∃ error, items.mapM Rule.ofItem = .error error) := by
  induction items with
  | nil => exact .inl ⟨rfl, rfl⟩
  | cons item rest ih =>
      cases read : Rule.ofItem item with
      | error error =>
          right
          refine ⟨by simp [complaint?, read], error, ?_⟩
          rw [List.mapM_cons, read]
          rfl
      | ok rule =>
          have quiet : complaint? item = none := complaint?_eq_none_iff.mpr ⟨rule, read⟩
          rw [List.filterMap_cons_none quiet, List.mapM_cons, read]
          rcases ih with ⟨none, rules⟩ | ⟨some, error, refused⟩
          · left
            rw [rules, List.filterMap_cons_some (by rw [read]; rfl)]
            exact ⟨none, rfl⟩
          · right
            rw [refused]
            exact ⟨some, error, rfl⟩

theorem ofText?_eq (text : Text) :
    ofText? text = if complaints text = [] then some (ofText text) else none := by
  rcases mapM_ofItem (items text) with ⟨none, rules⟩ | ⟨some, error, refused⟩
  · rw [ofText?, rules, complaints, if_pos none]
    rfl
  · rw [ofText?, refused, complaints, if_neg some]

def inForce (given : Option Text) (level : Text) : Text :=
  match given with
  | some text => if complaints text = [] then text else level
  | none => level

theorem choose_eq (given : Option Text) (level : Text) :
    choose given level =
      (ofText (inForce given level), complaints (inForce given level)) := by
  cases given with
  | none => rfl
  | some text =>
      by_cases quiet : complaints text = []
      · simp [choose, ofText?_eq, inForce, quiet]
      · simp [choose, ofText?_eq, inForce, quiet]

theorem inForce_of_isList {given : Option Text} {level : Text} (list : IsList (given.getD level)) :
    inForce given level = given.getD level := by
  cases given with
  | none => rfl
  | some text =>
      have quiet : complaints text = [] := complaints_of_isList list
      simp [inForce, quiet]

def shown (filter : Filter) (events : List Event) : List Text :=
  (events.filter filter.allows).map Event.line

theorem shown_append (filter : Filter) (left right : List Event) :
    filter.shown (left ++ right) = filter.shown left ++ filter.shown right := by
  simp [shown]

theorem items_of_level {text : Text} {level : Level} (read : Level.ofText? text = some level) :
    items text = [text] := by
  obtain ⟨nonempty, alphanumeric⟩ := Level.alphanumeric_of_ofText? read
  have comma : ',' ∉ text := by
    intro comma
    cases alphanumeric ',' comma
  simp [items, Text.pieces_of_not_mem comma, nonempty]

theorem isList_of_level {text : Text} {level : Level} (read : Level.ofText? text = some level) :
    IsList text := by
  intro item member
  rw [items_of_level read, List.mem_singleton] at member
  rw [member]
  exact .level read

theorem ofText_of_level {text : Text} {level : Level} (read : Level.ofText? text = some level) :
    ofText text = ⟨[⟨[], level⟩]⟩ := by
  rw [ofText, items_of_level read, List.filterMap_cons_some (by rw [ofItem_of_level read]; rfl)]
  rfl

theorem allows_of_level (level : Level) (event : Event) :
    (⟨[⟨[], level⟩]⟩ : Filter).allows event = decide (event.level.rank ≤ level.rank) := by
  simp [allows, rule?, Rule.appliesTo, Rule.prefer]

theorem shown_of_level {text : Text} {level : Level} (read : Level.ofText? text = some level)
    {events : List Event} (loud : ∀ event ∈ events, event.level.rank ≤ level.rank) :
    (ofText text).shown events = events.map Event.line := by
  have all : events.filter (ofText text).allows = events := by
    apply List.filter_eq_self.mpr
    intro event member
    rw [ofText_of_level read, allows_of_level]
    exact decide_eq_true (loud event member)
  rw [shown, all]

end Filter

end KernelSymbols.Log
