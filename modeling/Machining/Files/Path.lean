import Machining.Text.Charset
import Machining.Text.Quoted

/-!
# Paths

A path leads from a base directory inwards, one name after another; a rooted path leads from the
root of all files instead.  The name of two points leads outwards again.  Written out, the names are
parted by slashes, and a rooted path begins with one or two; empty names and single points do not
count.
-/

namespace Machining.Files

open Machining.Text

/-- A path to a file or a directory. -/
structure Path where
  /-- How many slashes it begins with: two, one for any other rooted path, or none. -/
  slashes : Nat
  /-- The names on the way, the outermost first. -/
  names : List String
  deriving DecidableEq

namespace Path

/-- The name that leads outwards. -/
def outwards : String := ".."

/-- The parts of a text between its slashes. -/
def parts (s : String) : List String := (s.toList.splitOn '/').map String.ofList

/-- The path that a text stands for. -/
def ofText (s : String) : Path :=
  let slashes := (s.toList.takeWhile (· = '/')).length
  ⟨if slashes ≤ 2 then slashes else 1,
    (parts s).filter fun name => !(name.isEmpty || name == ".")⟩

/-- The path as it is written. -/
def text (path : Path) : String :=
  if path.slashes = 0 ∧ path.names.isEmpty then "."
  else String.ofList (List.replicate path.slashes '/') ++ String.intercalate "/" path.names

/-- The directory that holds the path, as it is written; where a path begins, it holds itself. -/
def parent (path : Path) : Path := { path with names := path.names.dropLast }

/-- The path up to so many of its names. -/
def upTo (path : Path) (count : Nat) : Path := { path with names := path.names.take count }

/-- The last name; there is none where a path begins. -/
def name? (path : Path) : Option String := path.names.getLast?

/-- The path one name further. -/
def child (path : Path) (name : String) : Path := { path with names := path.names ++ [name] }

/-- The path with another last name. -/
def withName (path : Path) (name : String) : Path := path.parent.child name

/-- The steps that a name leads through; it may lead on to single points. -/
def stepsOf (name : String) : List String := (parts name).filter fun step => !step.isEmpty

/-- The steps on the way. -/
def steps (path : Path) : List String := path.names.flatMap stepsOf

/-- Whether a path leads to where it begins, or outwards only. -/
def leadsNowhere (path : Path) : Bool := path.names.all (· == outwards)

/-- Where a path begins. -/
def start (path : Path) : Path := ⟨if path.slashes = 0 then 0 else 1, []⟩

/-- The directory around a place to which a path leads without going back. -/
def around (place : Path) : Path :=
  if place.slashes = 0 ∧ place.leadsNowhere then place.child outwards else place.parent

/-- The path without any way that is gone back at once. -/
def straight (path : Path) : Path :=
  path.names.foldl (fun place name => if name = outwards then place.around else place.child name)
    path.start

/-! ## Paths that cannot be used -/

/-- The bytes that a character of a path takes; some halves of pairs stand for single bytes. -/
def byteCount (c : Char) : Nat :=
  if holdsSurrogate c then 1 else (Utf8.encode c.toString).length

/-- The bytes that a text in a path takes. -/
def size (s : String) : Nat := s.toList.foldl (fun total c => total + byteCount c) 0

/-- Whether a character stands for a half of a pair that is no single byte. -/
def isStray (c : Char) : Bool :=
  holdsSurrogate c && !(0xDC80 ≤ codePoint c && codePoint c < 0xDD00)

/-- Why a path cannot be used at all. -/
inductive Fault where
  /-- A character has no bytes. -/
  | encode (error : EncodeError)
  /-- The path ends before its end. -/
  | embeddedNul
  deriving DecidableEq

/-- The wording of a fault. -/
def Fault.message : Fault → String
  | encode error => error.message
  | embeddedNul => "embedded null byte"

/-- What is wrong with a path, if it cannot be used. -/
def fault? (path : Path) : Option Fault :=
  let characters := path.text.toList
  match characters.dropWhile (!isStray ·) with
  | first :: rest =>
    some (.encode ⟨.utf8 false, first, characters.length - (rest.length + 1),
      (rest.takeWhile holdsSurrogate).length + 1⟩)
  | [] => if characters.contains '\x00' then some .embeddedNul else none

end Path

/-! ## Names beside a path -/

/-- Why a name cannot be formed. -/
inductive NameError where
  /-- Where a path begins, there is no name to be changed. -/
  | noName (path : Path)
  /-- The text is no single name. -/
  | invalidName (name : String)
  deriving DecidableEq

/-- The wording of a name error. -/
def NameError.message : NameError → String
  | noName path => "PosixPath(" ++ quoted path.text ++ ") has an empty name"
  | invalidName name => "Invalid name " ++ quoted name

/-- The path beside another one whose name is longer by a suffix.  The name may lead on to single
points. -/
def Path.sibling (path : Path) (suffix : String) : Except NameError Path :=
  match path.name? with
  | none => .error (.noName path)
  | some name =>
    let longer := name ++ suffix
    if longer.toList.getLast? = some '/' ∨ (Path.ofText longer).names.length ≠ 1 then
      .error (.invalidName longer)
    else .ok (path.withName longer)

end Machining.Files
