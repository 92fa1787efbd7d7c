import KernelSymbols.Disk.Path

set_option autoImplicit false

namespace KernelSymbols

abbrev Location := List Text

inductive Node
  | file (content : Bytes)
  | directory
  -- Takes everything and holds nothing.
  | null
  -- Has no room for anything and hands out zero bytes without end.
  | full
deriving DecidableEq, Repr

structure Disk where
  home : Location
  nodes : List (Location × Node)
deriving DecidableEq, Repr

inductive DiskError
  | notFound
  | notADirectory
  | isADirectory
  | noSpace
  | nameTooLong
  | nulInName
deriving DecidableEq, Repr

def DiskError.message : DiskError → Text
  | .notFound => "No such file or directory (os error 2)".toList
  | .notADirectory => "Not a directory (os error 20)".toList
  | .isADirectory => "Is a directory (os error 21)".toList
  | .noSpace => "No space left on device (os error 28)".toList
  | .nameTooLong => "File name too long (os error 36)".toList
  | .nulInName => "file name contained an unexpected NUL byte".toList

namespace Disk

def node? (disk : Disk) (location : Location) : Option Node :=
  if location = [] then some .directory
  else disk.nodes.lookup location

def put (disk : Disk) (location : Location) (node : Node) : Disk :=
  { disk with nodes := (location, node) :: disk.nodes.filter fun entry => entry.1 ≠ location }

theorem node?_put (disk : Disk) {location : Location} (h : location ≠ []) (node : Node) :
    (disk.put location node).node? location = some node := by
  simp [node?, put, h]

theorem lookup_filter_ne (nodes : List (Location × Node)) {location other : Location}
    (h : other ≠ location) :
    (nodes.filter fun entry => decide (entry.1 ≠ location)).lookup other =
      nodes.lookup other := by
  induction nodes with
  | nil => rfl
  | cons entry rest ih =>
      obtain ⟨key, node⟩ := entry
      by_cases hk : key = location
      · have : (other == key) = false := by simpa [hk] using h
        simp only [hk, List.lookup_cons, ne_eq, not_true_eq_false, decide_false,
          Bool.false_eq_true, not_false_eq_true, List.filter_cons_of_neg] at ih ⊢
        rw [show (other == location) = false by simpa using h]
        exact ih
      · simp only [ne_eq, hk, not_false_eq_true, decide_true, List.filter_cons_of_pos,
          List.lookup_cons]
        rw [← ih]

theorem node?_put_of_ne (disk : Disk) {location other : Location} (h : other ≠ location)
    (node : Node) : (disk.put location node).node? other = disk.node? other := by
  unfold node? put
  split
  · rfl
  · have : (other == location) = false := by simpa using h
    rw [List.lookup_cons, this]
    exact lookup_filter_ne disk.nodes h

theorem put_put (disk : Disk) (location : Location) (first second : Node) :
    (disk.put location first).put location second = disk.put location second := by
  simp [put, List.filter_filter]

/-- Makes all the directories above as well, where nothing is there yet. -/
def makeDirectories (disk : Disk) (location : Location) : Disk :=
  (List.range location.length).foldl (fun disk depth =>
    let above := location.take (depth + 1)
    if disk.node? above = none then disk.put above .directory else disk) disk

def devices : List (Location × Node) :=
  [ (["dev".toList], .directory), (["dev".toList, "null".toList], .null),
    (["dev".toList, "full".toList], .full) ]

def blank (home : Location) : Disk := makeDirectories ⟨home, devices⟩ home

def inHome (disk : Disk) (name : Text) : Location :=
  disk.home ++ (Text.pieces '/' name).filter fun part => !part.isEmpty

def addDirectory (disk : Disk) (name : Text) : Disk := disk.makeDirectories (disk.inHome name)

def addFile (disk : Disk) (name : Text) (content : Bytes) : Disk :=
  let location := disk.inHome name
  (disk.makeDirectories location.dropLast).put location (.file content)

def homeContents (disk : Disk) : List (Text × Node) :=
  disk.nodes.filterMap fun (location, node) =>
    if disk.home.isPrefixOf location && location ≠ disk.home then
      some (Text.join '/' (location.drop disk.home.length), node)
    else none

end Disk

end KernelSymbols
