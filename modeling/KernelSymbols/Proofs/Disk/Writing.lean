import KernelSymbols.Disk.Access

set_option autoImplicit false

namespace KernelSymbols.Disk

variable {disk : Disk} {location : Location}

-- What holds a file, or nothing at all.
def IsRegular (disk : Disk) (location : Location) : Prop :=
  ∀ node, disk.node? location = some node → ∃ content, node = .file content

theorem isRegular_of_file {content : Bytes} (file : disk.node? location = some (.file content)) :
    disk.IsRegular location := by
  intro node present
  rw [file] at present
  exact ⟨content, (Option.some.inj present).symm⟩

theorem isRegular_of_absent (absent : disk.node? location = none) : disk.IsRegular location := by
  intro node present
  rw [absent] at present
  cases present

theorem IsRegular.ne_directory (regular : disk.IsRegular location) :
    disk.node? location ≠ some .directory := by
  intro directory
  obtain ⟨content, file⟩ := regular _ directory
  cases file

theorem IsRegular.ne_nil (regular : disk.IsRegular location) : location ≠ [] := by
  rintro rfl
  exact regular.ne_directory (by simp [node?])

theorem not_isRegular {node : Node} (present : disk.node? location = some node)
    (device : ∀ content, node ≠ .file content) : ¬ disk.IsRegular location := by
  intro regular
  obtain ⟨content, file⟩ := regular node present
  exact device content file

theorem fill_put_file (regular : disk.IsRegular location) (content bytes : Bytes) :
    (disk.put location (.file content)).fill location bytes = disk.put location (.file bytes) := by
  rw [fill_of_file (node?_put disk regular.ne_nil _), put_put]

theorem fill_of_device {node : Node} (present : disk.node? location = some node)
    (device : ∀ content, node ≠ .file content) (bytes : Bytes) :
    disk.fill location bytes = disk := by
  rw [fill, present]
  cases node with
  | file content => exact absurd rfl (device content)
  | directory => rfl
  | null => rfl
  | full => rfl

-- The path names a file there, whether or not there is one.
inductive Names (disk : Disk) (text : Text) : Location → Prop
  | within {path : Path} {parent : Location} (checked : checkText text = .ok path)
      (found : disk.parentOf path = .ok parent) (name : Path.isStep path.last = false)
      (last : path.endsInSlash = false) (fits : Path.nameFits path.last = true) :
      Names disk text (parent ++ [path.last])

theorem Names.unique {text : Text} {other : Location} (left : disk.Names text location)
    (right : disk.Names text other) : location = other := by
  cases left with
  | within checked found =>
      cases right with
      | within again refound =>
          cases Except.ok.inj (checked.symm.trans again)
          cases Except.ok.inj (found.symm.trans refound)
          rfl

theorem openFile_of_names {text : Text} {node : Node} (names : disk.Names text location)
    (present : disk.node? location = some node) : disk.openFile text = .ok (contents node) := by
  cases names with
  | within checked found name last fits =>
      rw [openFile, checked, Except.bind, openNode, found]
      cases node <;> simp [Except.bind, name, fits, present, last, Except.map]

theorem bind_eq_ok {α β : Type} {first : Except DiskError α} {next : α → Except DiskError β}
    {result : β} (h : first.bind next = .ok result) :
    ∃ value, first = .ok value ∧ next value = .ok result := by
  cases first with
  | error error => cases h
  | ok value => exact ⟨value, rfl, h⟩

theorem create_eq_ok {text : Text} {created : Disk}
    (h : disk.create text = .ok (created, location)) :
    disk.Names text location ∧
      ((disk.node? location = some .null ∧ created = disk) ∨
        (disk.node? location = some .full ∧ created = disk) ∨
        (disk.IsRegular location ∧ created = disk.put location (.file []))) := by
  obtain ⟨path, checked, h⟩ := bind_eq_ok h
  obtain ⟨parent, found, h⟩ := bind_eq_ok h
  split at h
  · cases h
  next step =>
    split at h
    · cases h
    next fits =>
      simp only [Bool.or_eq_true, not_or, Bool.not_eq_true] at step
      have names := Names.within checked found step.1 step.2 (by simpa using fits)
      dsimp only at h
      split at h
      · cases h
      next null =>
        cases h
        exact ⟨names, .inl ⟨null, rfl⟩⟩
      next full =>
        cases h
        exact ⟨names, .inr (.inl ⟨full, rfl⟩)⟩
      next content file =>
        cases h
        exact ⟨names, .inr (.inr ⟨isRegular_of_file file, rfl⟩)⟩
      next absent =>
        cases h
        exact ⟨names, .inr (.inr ⟨isRegular_of_absent absent, rfl⟩)⟩

theorem enter_put (other : disk.node? location ≠ some .directory) (node : Node)
    {here next : Location} {name : Text} (h : disk.enter here name = .ok next) :
    (disk.put location node).enter here name = .ok next := by
  unfold enter at h ⊢
  split
  next same => rwa [if_pos same] at h
  next inner =>
    rw [if_neg inner] at h
    split
    next up => rwa [if_pos up] at h
    next down =>
      rw [if_neg down] at h
      split
      next long => rwa [if_pos long] at h
      next short =>
        rw [if_neg short] at h
        have apart : here ++ [name] ≠ location := by
          rintro rfl
          split at h
          next directory => exact other directory
          all_goals cases h
        rwa [node?_put_of_ne disk apart]

theorem foldlM_enter_put (other : disk.node? location ≠ some .directory) (node : Node)
    {names : List Text} {here there : Location} (h : names.foldlM disk.enter here = .ok there) :
    names.foldlM (disk.put location node).enter here = .ok there := by
  induction names generalizing here with
  | nil => exact h
  | cons name rest ih =>
      rw [List.foldlM_cons] at h ⊢
      obtain ⟨next, step, h⟩ := bind_eq_ok h
      rw [enter_put other node step]
      exact ih h

theorem Names.put {text : Text} (names : disk.Names text location) {other : Location}
    (elsewhere : disk.node? other ≠ some .directory) (node : Node) :
    (disk.put other node).Names text location := by
  cases names with
  | within checked found name last fits =>
      exact .within checked (foldlM_enter_put elsewhere node found) name last fits

end KernelSymbols.Disk
