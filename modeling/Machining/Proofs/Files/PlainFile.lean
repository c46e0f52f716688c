import Mathlib
import Machining.Files.Document
import Machining.Proofs.Result

/-!
# A file in plain characters

A file whose characters are ASCII is read as it stands: every byte is one character.  So what a
document file says can be told from its characters, without going through bytes and back.

* `decode?_plainBytes`: the bytes of ASCII characters are read as these characters.
* `readText_plainTree`: a file of such characters is the text that they make up, and
  `readDocument_plainTree`: it holds the document that they spell.
-/

namespace Machining.Files

open Machining.Document Machining.Text

/-! ## Characters and bytes -/

/-- Whether a character is a single byte. -/
def isPlain (c : Char) : Bool := decide (c.toNat < 0x80)

/-- One byte for each character. -/
def plainBytes (chars : List Char) : List UInt8 := chars.map fun c => c.toNat.toUInt8

private theorem step_plain {c : Char} (h : isPlain c = true) :
    Utf8.step none c.toNat.toUInt8 = ([.char c], none) := by
  have hlow : c.toNat < 0x80 := of_decide_eq_true h
  have hbyte : c.toNat.toUInt8.toNat = c.toNat := by
    change c.toNat % 256 = c.toNat
    omega
  show Utf8.begin c.toNat.toUInt8 = _
  rw [Utf8.begin, hbyte, Utf8.lead?, if_pos hlow]
  simp

private theorem foldl_step_plain {chars : List Char} (h : ∀ c ∈ chars, isPlain c = true)
    (found : List Utf8.Piece) :
    (plainBytes chars).foldl
      (fun (found, pending) b =>
        let (more, next) := Utf8.step pending b
        (more.reverse ++ found, next)) (found, none) =
      ((chars.map Utf8.Piece.char).reverse ++ found, none) := by
  -- after each character nothing is pending, and its piece is in front
  induction chars generalizing found with
  | nil => rfl
  | cons c chars ih =>
    have hstep := step_plain (h c List.mem_cons_self)
    rw [plainBytes, List.map_cons, List.foldl_cons]
    simp only [hstep]
    apply (ih (fun other hmem => h other (List.mem_cons_of_mem _ hmem)) _).trans
    simp

private theorem pieces_plainBytes {chars : List Char} (h : ∀ c ∈ chars, isPlain c = true) :
    Utf8.pieces (plainBytes chars) = chars.map .char := by
  unfold Utf8.pieces
  rw [foldl_step_plain h]
  simp

private theorem go_map_char (offset : Nat) (found chars : List Char) :
    Utf8.decode?.go offset found (chars.map .char) =
      .ok (String.ofList (found.reverse ++ chars)) := by
  induction chars generalizing offset found with
  | nil => simp [Utf8.decode?.go]
  | cons c chars ih =>
    rw [List.map_cons, Utf8.decode?.go, ih]
    simp

/-- The bytes of ASCII characters are read as these characters. -/
theorem decode?_plainBytes {chars : List Char} (h : ∀ c ∈ chars, isPlain c = true) :
    Utf8.decode? (plainBytes chars) = .ok (String.ofList chars) := by
  rw [Utf8.decode?, pieces_plainBytes h]
  exact go_map_char 0 [] chars

/-! ## A tree with one file -/

/-- The path to the only file of a tree. -/
def plainPath : Path := ⟨0, ["s"]⟩

/-- A tree with one file, in plain characters. -/
def plainTree (chars : List Char) : Tree := ⟨[(plainPath, .file (plainBytes chars))]⟩

theorem fault?_plainPath : plainPath.fault?.isSome = false := rfl

theorem look_plainTree (chars : List Char) :
    (plainTree chars).look plainPath = .ok (some (.file (plainBytes chars))) := by
  have hsteps : plainPath.steps = ["s"] := by cbv
  have hshort : ¬ Tree.longestPath < Path.size plainPath.text := by decide +kernel
  have hplace : Tree.placeIn plainPath.start "s" = .ok plainPath := by
    rw [Tree.placeIn, if_neg (by decide), if_neg (by decide), if_neg (by decide +kernel)]
    rfl
  -- the path is one name below the root, and no link stands in the way
  have hlocate : (plainTree chars).locate plainPath = .ok plainPath := by
    rw [Tree.locate, if_neg hshort, hsteps]
    exact hplace
  rw [Tree.look, hlocate]
  rfl

/-- A file of plain characters is a text. -/
theorem readText_plainTree {chars : List Char} (hplain : chars.all isPlain = true) :
    readText (plainTree chars) plainPath = .ok (String.ofList (unifyBreaks chars)) := by
  rw [readText, look_plainTree, fault?_plainPath]
  show ((Utf8.decode? (plainBytes chars)).mapError DocumentError.undecodable >>= fun s =>
    pure (String.ofList (unifyBreaks s.toList))) = _
  rw [decode?_plainBytes (List.all_eq_true.mp hplain)]
  show Except.ok (String.ofList (unifyBreaks (String.ofList chars).toList)) = _
  rw [String.toList_ofList]

/-- What is true of the document that some characters spell. -/
theorem exists_document_of_spelt {chars : List Char} {test : Value → Bool}
    (h : (Yaml.readChars (unifyBreaks chars)).toOption.any test = true) :
    ∃ document, Yaml.read (String.ofList (unifyBreaks chars)) = .ok document ∧
      test document = true := by
  obtain ⟨document, hdocument, htest⟩ := exists_of_any_eq_true h
  refine ⟨document, ?_, htest⟩
  rw [Yaml.read, String.toList_ofList, hdocument]

/-- A file of plain characters holds the document that they spell. -/
theorem readDocument_plainTree {chars : List Char} (hplain : chars.all isPlain = true)
    {value : Value} (hvalue : Yaml.readChars (unifyBreaks chars) = .ok value) :
    readDocument (plainTree chars) plainPath = .ok value := by
  have hread : Yaml.read (String.ofList (unifyBreaks chars)) = .ok value := by
    rw [Yaml.read, String.toList_ofList]
    exact hvalue
  unfold readDocument
  rw [readText_plainTree hplain]
  dsimp only [bind, Except.bind]
  rw [hread]
  rfl

end Machining.Files
