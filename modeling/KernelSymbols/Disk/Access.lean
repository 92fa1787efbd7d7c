import KernelSymbols.Disk.Basic
import KernelSymbols.Supply

set_option autoImplicit false

namespace KernelSymbols.Disk

def enter (disk : Disk) (here : Location) (name : Text) : Except DiskError Location :=
  if name.isEmpty || name = ".".toList then .ok here
  else if name = "..".toList then .ok here.dropLast
  else if !Path.nameFits name then .error .nameTooLong
  else
    match disk.node? (here ++ [name]) with
    | some .directory => .ok (here ++ [name])
    | some _ => .error .notADirectory
    | none => .error .notFound

def parentOf (disk : Disk) (path : Path) : Except DiskError Location :=
  path.through.foldlM disk.enter (if path.absolute then [] else disk.home)

def checkText (text : Text) : Except DiskError Path :=
  if '\x00' ∈ text then .error .nulInName
  else if !Path.fits text then .error .nameTooLong
  else if text.isEmpty then .error .notFound
  else .ok (Path.ofText text)

def openNode (disk : Disk) (path : Path) : Except DiskError Node :=
  (disk.parentOf path).bind fun parent =>
    if Path.isStep path.last then .ok .directory
    else if !Path.nameFits path.last then .error .nameTooLong
    else
      match disk.node? (parent ++ [path.last]) with
      | none => .error .notFound
      | some .directory => .ok .directory
      | some node => if path.endsInSlash then .error .notADirectory else .ok node

/-- A directory can be opened but not read. -/
def contents : Node → Supply
  | .file content => .finite [.data content]
  | .directory => .finite [.failure DiskError.isADirectory.message]
  | .null => .finite []
  | .full => .zeros

def openFile (disk : Disk) (text : Text) : Except DiskError Supply :=
  (checkText text).bind fun path => (disk.openNode path).map contents

def createAt (disk : Disk) (path : Path) : Except DiskError (Disk × Location) :=
  (disk.parentOf path).bind fun parent =>
    if Path.isStep path.last || path.endsInSlash then .error .isADirectory
    else if !Path.nameFits path.last then .error .nameTooLong
    else
      let location := parent ++ [path.last]
      match disk.node? location with
      | some .directory => .error .isADirectory
      | some .null | some .full => .ok (disk, location)
      | some (.file _) | none => .ok (disk.put location (.file []), location)

def create (disk : Disk) (text : Text) : Except DiskError (Disk × Location) :=
  (checkText text).bind disk.createAt

/-- Devices keep nothing of what is written to them. -/
def fill (disk : Disk) (location : Location) (content : Bytes) : Disk :=
  match disk.node? location with
  | some (.file _) => disk.put location (.file content)
  | _ => disk

theorem fill_of_file {disk : Disk} {location : Location} {content : Bytes}
    (file : disk.node? location = some (.file content)) (bytes : Bytes) :
    disk.fill location bytes = disk.put location (.file bytes) := by
  rw [fill, file]

theorem ne_nil_of_file {disk : Disk} {location : Location} {content : Bytes}
    (file : disk.node? location = some (.file content)) : location ≠ [] := by
  rintro rfl
  cases file

theorem fill_fill (disk : Disk) (location : Location) (first second : Bytes) :
    (disk.fill location first).fill location second = disk.fill location second := by
  by_cases file : ∃ content, disk.node? location = some (.file content)
  · obtain ⟨content, file⟩ := file
    have filled := node?_put disk (ne_nil_of_file file) (.file first)
    rw [fill_of_file file, fill_of_file filled, fill_of_file file, put_put]
  · have same (bytes : Bytes) : disk.fill location bytes = disk := by
      unfold fill
      split
      next content present => exact absurd ⟨content, present⟩ file
      · rfl
    rw [same, same]

end KernelSymbols.Disk
