import Machining.Program.Line
import Machining.Proofs.Numeric.Characters

/-!
# A machine that reads a program

A machine reads the lines of a program as they are written.  A line that begins with a semicolon
is a remark.  Any other line is a sequence of words with blanks between them, and a word is a
letter and a value.  The machine remembers what lasts beyond a line: the tool, the spindle, the
coolant, the feed and the height that was last commanded.

## What it reads

`readWords_text` says which words the machine finds in each line that the library writes.  From
there on nothing depends on how a line is spelt.
-/

namespace Machining.Program

open Machining.Numeric Machining.Job

/-! ## Words -/

/-- One word of a line. -/
structure Word where
  /-- What is commanded. -/
  letter : Char
  /-- With which value. -/
  value : String
  deriving DecidableEq

namespace Word

/-- The characters of a word. -/
def chars (word : Word) : List Char := word.letter :: word.value.toList

/-- The word of some characters. -/
def ofChars? : List Char → Option Word
  | [] => none
  | letter :: value => some ⟨letter, String.ofList value⟩

@[simp] theorem ofChars?_chars (word : Word) : ofChars? word.chars = some word := by
  simp [ofChars?, chars]

end Word

/-- Whether a line is a remark. -/
def isRemark (text : String) : Bool := text.toList.head? = some ';'

/-- The words of a line as it is written; a remark has none. -/
def readWords (text : String) : List Word :=
  if isRemark text then [] else (text.toList.splitOn ' ').filterMap Word.ofChars?

/-! ## What a line commands -/

/-- Whether a line has the word. -/
def hasWord (letter : Char) (value text : String) : Bool :=
  (readWords text).contains ⟨letter, value⟩

/-- Whether a line has a word with the letter. -/
def hasLetter (letter : Char) (text : String) : Bool :=
  (readWords text).any fun word => word.letter = letter

/-- Whether a line is a move at the feed, straight or on an arc. -/
def isFeedMove (text : String) : Bool :=
  hasWord 'G' "1" text || hasWord 'G' "2" text || hasWord 'G' "3" text

/-- Whether a line is a rapid move in the plane. -/
def isRapidInPlane (text : String) : Bool :=
  hasWord 'G' "0" text && (hasLetter 'X' text || hasLetter 'Y' text)

/-- Whether a line is a rapid move along Z. -/
def isRapidAlongZ (text : String) : Bool := hasWord 'G' "0" text && hasLetter 'Z' text

/-- Whether a line exchanges the tool. -/
def isToolChange (text : String) : Bool := hasWord 'M' "6" text

/-- Whether a line moves the tool: it names a kind of move or a position. -/
def isMotion (text : String) : Bool :=
  hasWord 'G' "0" text || isFeedMove text || hasLetter 'X' text || hasLetter 'Y' text ||
    hasLetter 'Z' text

/-! ## The machine -/

/-- What a machine remembers from line to line. -/
structure Machine where
  /-- The tool that was selected last. -/
  selected : Option String
  /-- The tool in the spindle. -/
  loaded : Option String
  /-- The speed that was commanded last. -/
  speed : Option String
  /-- Whether the spindle turns. -/
  spinning : Bool
  /-- Whether the coolant runs. -/
  coolant : Bool
  /-- The feed that was commanded last. -/
  feed : Option String
  /-- The height that was commanded last. -/
  z : Option String
  deriving DecidableEq

/-- The name in the value of a tool word: between an equals sign with a quotation mark and another
quotation mark. -/
def toolName (value : String) : String := String.ofList (value.toList.drop 2).dropLast

namespace Machine

/-- A machine that nothing was commanded yet. -/
def idle : Machine := ⟨none, none, none, false, false, none, none⟩

/-- Obeys a word. -/
def obey (m : Machine) (word : Word) : Machine :=
  match word.letter, word.value with
  | 'T', value => { m with selected := some (toolName value) }
  | 'S', value => { m with speed := some value }
  | 'F', value => { m with feed := some value }
  | 'Z', value => { m with z := some value }
  | 'M', "3" => { m with spinning := true }
  | 'M', "5" => { m with spinning := false }
  | 'M', "6" => { m with loaded := m.selected }
  | 'M', "8" => { m with coolant := true }
  | 'M', "9" => { m with coolant := false }
  | _, _ => m

/-- Reads a line. -/
def read (m : Machine) (text : String) : Machine := (readWords text).foldl obey m

/-- Reads lines one after another. -/
def execute (m : Machine) (lines : List Line) : Machine :=
  lines.foldl (fun m line => m.read line.text) m

/-- `m.Always P lines`: whenever the machine is about to read one of the lines, `P` holds of it
and of that line. -/
def Always (P : Machine → Line → Prop) : Machine → List Line → Prop
  | _, [] => True
  | m, line :: rest => P m line ∧ Always P (m.read line.text) rest

@[simp] theorem execute_nil (m : Machine) : m.execute [] = m := rfl

@[simp] theorem execute_cons (m : Machine) (line : Line) (rest : List Line) :
    m.execute (line :: rest) = (m.read line.text).execute rest := rfl

theorem execute_append (m : Machine) (first second : List Line) :
    m.execute (first ++ second) = (m.execute first).execute second :=
  List.foldl_append

@[simp] theorem always_nil (P : Machine → Line → Prop) (m : Machine) : m.Always P [] := trivial

@[simp] theorem always_cons (P : Machine → Line → Prop) (m : Machine) (line : Line)
    (rest : List Line) :
    m.Always P (line :: rest) ↔ P m line ∧ (m.read line.text).Always P rest := Iff.rfl

theorem always_append {P : Machine → Line → Prop} {m : Machine} {first second : List Line} :
    m.Always P (first ++ second) ↔ m.Always P first ∧ (m.execute first).Always P second := by
  induction first generalizing m with
  | nil => simp
  | cons line rest ih => simp [ih, and_assoc]

theorem Always.mono {P Q : Machine → Line → Prop} {m : Machine} {lines : List Line}
    (h : m.Always P lines) (himp : ∀ m, ∀ line ∈ lines, P m line → Q m line) :
    m.Always Q lines := by
  induction lines generalizing m with
  | nil => trivial
  | cons line rest ih =>
    refine ⟨himp m line List.mem_cons_self h.1, ih h.2 ?_⟩
    intro m other hmem
    exact himp m other (List.mem_cons_of_mem line hmem)

theorem Always.and {P Q : Machine → Line → Prop} {m : Machine} {lines : List Line}
    (hp : m.Always P lines) (hq : m.Always Q lines) :
    m.Always (fun m line => P m line ∧ Q m line) lines := by
  induction lines generalizing m with
  | nil => trivial
  | cons line rest ih => exact ⟨⟨hp.1, hq.1⟩, ih hp.2 hq.2⟩

/-- What every line keeps holds in front of every line, and behind the last. -/
theorem always_of_invariant {I : Machine → Prop} {m : Machine} {lines : List Line} (h : I m)
    (hstep : ∀ m, ∀ line ∈ lines, I m → I (m.read line.text)) :
    m.Always (fun m line => I m ∧ I (m.read line.text)) lines ∧ I (m.execute lines) := by
  induction lines generalizing m with
  | nil => exact ⟨trivial, h⟩
  | cons line rest ih =>
    have hnext := hstep m line List.mem_cons_self h
    obtain ⟨halways, hlast⟩ :=
      ih hnext fun m other hmem => hstep m other (List.mem_cons_of_mem line hmem)
    exact ⟨⟨⟨h, hnext⟩, halways⟩, hlast⟩

theorem always_of_forall {P : Machine → Line → Prop} {lines : List Line} (m : Machine)
    (h : ∀ m, ∀ line ∈ lines, P m line) : m.Always P lines := by
  induction lines generalizing m with
  | nil => trivial
  | cons line rest ih =>
    exact ⟨h m line List.mem_cons_self,
      ih _ fun m other hmem => h m other (List.mem_cons_of_mem line hmem)⟩

end Machine

/-! ## What the library writes -/

namespace Move

/-- The words of a move. -/
def words : Move → List Word
  | rapidZ z => [⟨'G', "0"⟩, ⟨'Z', z.text⟩]
  | rapidTo place => [⟨'G', "0"⟩, ⟨'X', place.x.text⟩, ⟨'Y', place.y.text⟩]
  | cutZ z => [⟨'G', "1"⟩, ⟨'Z', z.text⟩]
  | cutTo place => [⟨'G', "1"⟩, ⟨'X', place.x.text⟩, ⟨'Y', place.y.text⟩]
  | cutX x => [⟨'G', "1"⟩, ⟨'X', x.text⟩]
  | cutY y => [⟨'G', "1"⟩, ⟨'Y', y.text⟩]
  | cutArc clockwise place i j =>
    [⟨'G', if clockwise then "2" else "3"⟩, ⟨'X', place.x.text⟩, ⟨'Y', place.y.text⟩,
      ⟨'I', i.text⟩, ⟨'J', j.text⟩]
  | dropped => []

/-- The words of a move with its feed. -/
def wordsWithFeed (step : Move) : Option Fixed → List Word
  | none => step.words
  | some feed => if step = dropped then [] else step.words ++ [⟨'F', feed.text⟩]

end Move

/-- The words of a line. -/
def Line.words : Line → List Word
  | title _ | stock .. | operationCount _ | opening .. | nothingToMachine | skipped _
  | toolRemark .. | closing => []
  | modes => [⟨'G', "17"⟩, ⟨'G', "90"⟩, ⟨'G', "71"⟩, ⟨'G', "94"⟩]
  | workOffset name => readWords name
  | selectTool tool => [⟨'T', "=\"" ++ tool.name ++ "\""⟩]
  | changeTool => [⟨'M', "6"⟩]
  | spindleOn speed => [⟨'S', toString speed⟩, ⟨'M', "3"⟩]
  | spindleOff => [⟨'M', "5"⟩]
  | coolantOn => [⟨'M', "8"⟩]
  | coolantOff => [⟨'M', "9"⟩]
  | move step feed => step.wordsWithFeed feed
  | endOfProgram => [⟨'M', "30"⟩]

/-! ## Reading what is written -/

/-- Words that are written with blanks between them are read back, unless they make a remark. -/
private theorem readWords_eq {text : String} {words : List Word}
    (htext : text.toList = [' '].intercalate (words.map Word.chars)) (hne : words ≠ [])
    (hremark : isRemark text = false) (hblank : ∀ word ∈ words, ' ' ∉ word.chars) :
    readWords text = words := by
  -- no word has a blank of its own, so the blanks part the same words again
  have hsplit : text.toList.splitOn ' ' = words.map Word.chars := by
    rw [htext]
    refine List.splitOn_intercalate ' ' ?_ (by simpa using hne)
    intro chars hmem
    obtain ⟨word, hword, rfl⟩ := List.mem_map.mp hmem
    exact hblank word hword
  have hread : Word.ofChars? ∘ Word.chars = some := by
    funext word
    exact Word.ofChars?_chars word
  rw [readWords, hremark, hsplit, List.filterMap_map, hread]
  exact List.filterMap_some

private theorem readWords_of_remark {text : String} (h : isRemark text = true) :
    readWords text = [] := by
  rw [readWords, if_pos h]

/-- A remark may go on. -/
theorem isRemark_append {text : String} (rest : String) (h : isRemark text = true) :
    isRemark (text ++ rest) = true := by
  simp only [isRemark, decide_eq_true_eq] at h ⊢
  rw [String.toList_append, List.head?_append, h]
  rfl

/-- A move is written as its words with blanks between them. -/
private theorem toList_text_move {step : Move} (h : step ≠ .dropped) :
    step.text.toList = [' '].intercalate (step.words.map Word.chars) := by
  cases step with
  | dropped => exact absurd rfl h
  | cutArc clockwise place i j =>
    cases clockwise <;> simp [Move.text, Move.words, Place.text, Word.chars]
  | _ => simp [Move.text, Move.words, Place.text, Word.chars]

private theorem intercalate_concat (blank : Char) {parts : List (List Char)} (last : List Char)
    (h : parts ≠ []) :
    [blank].intercalate (parts ++ [last]) = [blank].intercalate parts ++ blank :: last := by
  induction parts with
  | nil => exact absurd rfl h
  | cons part rest ih =>
    cases rest with
    | nil => simp
    | cons next rest =>
      have hrest := ih (by simp)
      simp only [List.cons_append] at hrest ⊢
      rw [List.intercalate_cons_cons, List.intercalate_cons_cons, hrest]
      simp

private theorem blank_notMem_move {step : Move} {word : Word} (h : word ∈ step.words) :
    ' ' ∉ word.chars := by
  have hblank := isForeign_blank.notMem_text
  -- the code is a fixed text, and a coordinate is printed without blanks
  cases step with
  | dropped => cases h
  | cutArc clockwise place i j =>
    simp only [Move.words, List.mem_cons, List.not_mem_nil, or_false] at h
    rcases h with rfl | rfl | rfl | rfl | rfl
    · cases clockwise <;> decide
    all_goals simp [Word.chars, hblank]
  | rapidZ _ | cutZ _ | cutX _ | cutY _ =>
    simp only [Move.words, List.mem_cons, List.not_mem_nil, or_false] at h
    rcases h with rfl | rfl
    · decide
    · simp [Word.chars, hblank]
  | rapidTo _ | cutTo _ =>
    simp only [Move.words, List.mem_cons, List.not_mem_nil, or_false] at h
    rcases h with rfl | rfl | rfl
    · decide
    all_goals simp [Word.chars, hblank]

/-- The words of a move are read back. -/
private theorem readWords_move (step : Move) (feed : Option Fixed) :
    readWords (Line.move step feed).text = step.wordsWithFeed feed := by
  by_cases hdropped : step = .dropped
  · -- a dropped move is a remark, and what follows it belongs to the remark
    subst hdropped
    cases feed with
    | none => exact readWords_of_remark rfl
    | some feed => exact readWords_of_remark (isRemark_append _ (isRemark_append _ rfl))
  · have htext := toList_text_move hdropped
    have hne : step.words ≠ [] := by
      cases step with
      | dropped => exact absurd rfl hdropped
      | _ => simp [Move.words]
    have hremark (rest : String) : isRemark (step.text ++ rest) = false := by
      cases step with
      | dropped => exact absurd rfl hdropped
      | cutArc clockwise place i j => cases clockwise <;> simp [isRemark, Move.text]
      | _ => simp [isRemark, Move.text]
    cases feed with
    | none =>
      have hplain := hremark ""
      rw [String.append_empty] at hplain
      exact readWords_eq htext hne hplain fun word => blank_notMem_move
    | some feed =>
      -- the feed is one more word behind those of the move
      have hline : (Line.move step (some feed)).text = step.text ++ (" F" ++ feed.text) := by
        unfold Line.text
        exact String.append_assoc
      rw [hline, Move.wordsWithFeed, if_neg hdropped]
      refine readWords_eq ?_ (by simp) (hremark _) ?_
      · rw [List.map_append, List.map_singleton, intercalate_concat ' ' _ (by simpa using hne),
          ← htext]
        simp [Word.chars]
      · intro word hmem
        rcases List.mem_append.mp hmem with hstep | hfeed
        · exact blank_notMem_move hstep
        · rw [List.mem_singleton.mp hfeed]
          simp [Word.chars, isForeign_blank.notMem_text]

/-- **What is written is read back.**  The machine finds in each line exactly its words. -/
theorem readWords_text (line : Line) : readWords line.text = line.words := by
  cases line with
  | move step feed => exact readWords_move step feed
  -- the name of a work offset is free text, and its words are those that are read in it
  | workOffset name => rfl
  | selectTool tool => cases tool <;> rfl
  | spindleOn speed =>
    refine readWords_eq ?_ (by simp [Line.words]) ?_ ?_
    · unfold Line.text
      simp [Line.words, Word.chars]
    · unfold Line.text
      simp [isRemark]
    · intro word hmem
      simp only [Line.words, List.mem_cons, List.not_mem_nil, or_false] at hmem
      rcases hmem with rfl | rfl
      · simpa [Word.chars] using isForeign_blank.notMem_toString_int speed
      · decide
  | modes | changeTool | spindleOff | coolantOn | coolantOff | endOfProgram => rfl
  | nothingToMachine | closing => exact readWords_of_remark rfl
  | title _ | stock _ _ _ _ | operationCount _ | opening _ _ | skipped _ | toolRemark _ _ =>
    apply readWords_of_remark
    unfold Line.text
    simp [isRemark]

/-! ## What each line commands -/

/-- Whether a move is a rapid move in the plane. -/
def Move.isRapidInPlane : Move → Bool
  | rapidTo _ => true
  | _ => false

/-- Whether a move is a rapid move along Z. -/
def Move.isRapidAlongZ : Move → Bool
  | rapidZ _ => true
  | _ => false

/-- The height that a move goes to, if it names one. -/
def Move.height? : Move → Option Fixed
  | rapidZ z => some z
  | cutZ z => some z
  | _ => none

/-- The move of a line. -/
def Line.step? : Line → Option Move
  | move step _ => some step
  | _ => none

theorem eq_move_of_step? {line : Line} {step : Move} (h : line.step? = some step) :
    ∃ feed, line = .move step feed := by
  cases line with
  | move other feed =>
    obtain rfl := Option.some.inj h
    exact ⟨feed, rfl⟩
  | _ => cases h

theorem hasWord_text (letter : Char) (value : String) (line : Line) :
    hasWord letter value line.text = line.words.contains ⟨letter, value⟩ := by
  rw [hasWord, readWords_text]

theorem hasLetter_text (letter : Char) (line : Line) :
    hasLetter letter line.text = line.words.any fun word => word.letter = letter := by
  rw [hasLetter, readWords_text]

/-- The feed of a move adds a word with its own letter only. -/
private theorem hasWord_move {letter : Char} (h : letter ≠ 'F') (value : String) (step : Move)
    (feed : Option Fixed) :
    hasWord letter value (Line.move step feed).text = step.words.contains ⟨letter, value⟩ := by
  rw [hasWord_text, Line.words]
  cases feed with
  | none => rfl
  | some feed =>
    by_cases hdropped : step = .dropped
    · subst hdropped
      rfl
    · simp [Move.wordsWithFeed, hdropped, h]

private theorem hasLetter_move {letter : Char} (h : letter ≠ 'F') (step : Move)
    (feed : Option Fixed) :
    hasLetter letter (Line.move step feed).text =
      step.words.any fun word => word.letter = letter := by
  rw [hasLetter_text, Line.words]
  cases feed with
  | none => rfl
  | some feed =>
    by_cases hdropped : step = .dropped
    · subst hdropped
      rfl
    · simp [Move.wordsWithFeed, hdropped, h.symm]

section Commands

variable {line : Line} (hoffset : ∀ name, line ≠ .workOffset name)

include hoffset

theorem isFeedMove_text : isFeedMove line.text = line.step?.any Move.isCut := by
  cases line with
  | workOffset name => exact absurd rfl (hoffset name)
  | move step feed =>
    simp only [isFeedMove, hasWord_move (show 'G' ≠ 'F' by decide), Line.step?, Option.any_some]
    -- an arc has a word for each sense of rotation
    cases step with
    | cutArc clockwise place i j => cases clockwise <;> simp [Move.words, Move.isCut]
    | _ => simp [Move.words, Move.isCut]
  | _ => simp [isFeedMove, hasWord_text, Line.words, Line.step?]

theorem isRapidInPlane_text : isRapidInPlane line.text = line.step?.any Move.isRapidInPlane := by
  cases line with
  | workOffset name => exact absurd rfl (hoffset name)
  | move step feed =>
    simp only [isRapidInPlane, hasWord_move (show 'G' ≠ 'F' by decide),
      hasLetter_move (show 'X' ≠ 'F' by decide), hasLetter_move (show 'Y' ≠ 'F' by decide),
      Line.step?, Option.any_some]
    cases step with
    | cutArc clockwise place i j => cases clockwise <;> simp [Move.words, Move.isRapidInPlane]
    | _ => simp [Move.words, Move.isRapidInPlane]
  | _ => simp [isRapidInPlane, hasWord_text, Line.words, Line.step?]

theorem isRapidAlongZ_text : isRapidAlongZ line.text = line.step?.any Move.isRapidAlongZ := by
  cases line with
  | workOffset name => exact absurd rfl (hoffset name)
  | move step feed =>
    simp only [isRapidAlongZ, hasWord_move (show 'G' ≠ 'F' by decide),
      hasLetter_move (show 'Z' ≠ 'F' by decide), Line.step?, Option.any_some]
    cases step with
    | cutArc clockwise place i j => cases clockwise <;> simp [Move.words, Move.isRapidAlongZ]
    | _ => simp [Move.words, Move.isRapidAlongZ]
  | _ => simp [isRapidAlongZ, hasWord_text, Line.words, Line.step?]

theorem isMotion_text : isMotion line.text = line.step?.any fun step => step ≠ .dropped := by
  cases line with
  | workOffset name => exact absurd rfl (hoffset name)
  | move step feed =>
    simp only [isMotion, isFeedMove, hasWord_move (show 'G' ≠ 'F' by decide),
      hasLetter_move (show 'X' ≠ 'F' by decide), hasLetter_move (show 'Y' ≠ 'F' by decide),
      hasLetter_move (show 'Z' ≠ 'F' by decide), Line.step?, Option.any_some]
    cases step with
    | cutArc clockwise place i j => cases clockwise <;> simp [Move.words]
    | _ => simp [Move.words]
  | _ => simp [isMotion, isFeedMove, hasWord_text, hasLetter_text, Line.words, Line.step?]

theorem isToolChange_text : isToolChange line.text = decide (line = .changeTool) := by
  cases line with
  | workOffset name => exact absurd rfl (hoffset name)
  | move step feed =>
    rw [isToolChange, hasWord_move (show 'M' ≠ 'F' by decide)]
    cases step <;> simp [Move.words]
  | _ => simp [isToolChange, hasWord_text, Line.words]

end Commands

/-! ## What each line does to the machine -/

namespace Machine

theorem read_text (m : Machine) (line : Line) : m.read line.text = line.words.foldl obey m := by
  rw [read, readWords_text]

@[simp] theorem read_opening (m : Machine) (index : Nat) (kind : OperationKind) :
    m.read (Line.opening index kind).text = m := by
  rw [read_text]
  rfl

@[simp] theorem read_nothingToMachine (m : Machine) :
    m.read Line.nothingToMachine.text = m := by
  rw [read_text]
  rfl

@[simp] theorem read_skipped (m : Machine) (reason : SkipReason) :
    m.read (Line.skipped reason).text = m := by
  rw [read_text]
  rfl

@[simp] theorem read_toolRemark (m : Machine) (tool : Tool) (diameter : Fixed) :
    m.read (Line.toolRemark tool diameter).text = m := by
  rw [read_text]
  rfl

@[simp] theorem read_selectTool (m : Machine) (tool : Tool) :
    m.read (Line.selectTool tool).text = { m with selected := some tool.name } := by
  rw [read_text]
  cases tool <;> rfl

@[simp] theorem read_changeTool (m : Machine) :
    m.read Line.changeTool.text = { m with loaded := m.selected } := by
  rw [read_text]
  rfl

@[simp] theorem read_spindleOn (m : Machine) (speed : Int) :
    m.read (Line.spindleOn speed).text =
      { m with speed := some (toString speed), spinning := true } := by
  rw [read_text]
  rfl

@[simp] theorem read_spindleOff (m : Machine) :
    m.read Line.spindleOff.text = { m with spinning := false } := by
  rw [read_text]
  rfl

@[simp] theorem read_coolantOn (m : Machine) :
    m.read Line.coolantOn.text = { m with coolant := true } := by
  rw [read_text]
  rfl

/-- A move changes the height that it names, and nothing else. -/
@[simp] theorem read_move (m : Machine) (step : Move) :
    m.read (Line.move step none).text = { m with z := (step.height?.map Fixed.text).or m.z } := by
  rw [read_text]
  cases step with
  | cutArc clockwise place i j => cases clockwise <;> rfl
  | _ => rfl

/-- With a feed or without, a move changes the height and the feed at most. -/
theorem read_move_eq (m : Machine) (step : Move) (feed : Option Fixed) :
    ∃ f z, m.read (Line.move step feed).text = { m with feed := f, z := z } := by
  rw [read_text]
  cases feed with
  | none =>
    cases step with
    | cutArc clockwise place i j => cases clockwise <;> exact ⟨_, _, rfl⟩
    | _ => exact ⟨_, _, rfl⟩
  | some feed =>
    cases step with
    | cutArc clockwise place i j => cases clockwise <;> exact ⟨_, _, rfl⟩
    | _ => exact ⟨_, _, rfl⟩

/-- With a feed or without, a move changes the height to the one that it names. -/
theorem read_move_z (m : Machine) (step : Move) (feed : Option Fixed) :
    (m.read (Line.move step feed).text).z = (step.height?.map Fixed.text).or m.z := by
  rw [read_text]
  cases feed with
  | none =>
    cases step with
    | cutArc clockwise place i j => cases clockwise <;> rfl
    | _ => rfl
  | some feed =>
    cases step with
    | cutArc clockwise place i j => cases clockwise <;> rfl
    | _ => rfl

/-- A cutting move with a feed sets the feed as well. -/
theorem read_move_feed (m : Machine) {step : Move} (h : step.isCut = true) (feed : Fixed) :
    m.read (Line.move step (some feed)).text =
      { m with z := (step.height?.map Fixed.text).or m.z, feed := some feed.text } := by
  rw [read_text]
  cases step with
  | cutArc clockwise place i j => cases clockwise <;> rfl
  | rapidZ _ | rapidTo _ | dropped => cases h
  | _ => rfl

end Machine

end Machining.Program
