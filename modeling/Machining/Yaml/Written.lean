import Machining.Text.CodePoint
import Machining.Text.Digit
import Machining.Yaml.Char
import Machining.Yaml.Fault

/-!
# Texts as they are written

A text stands in quotes, as plain words, or as a block of lines.  Each reader below takes a text
off the front and gives its characters and what remains.  Line breaks inside quotes and between
plain words are folded: a single one is a space, and of several the first is dropped.

* `quotedText` reads a text in quotes, after the opening one.
* `plainText` reads plain words.
* `blockText` reads a block of lines, after the mark that opens it.
-/

namespace Machining.Yaml

open Machining.Text

/-- Folds a line break and the breaks of empty lines behind it. -/
def foldBreaks (first : Char) (more : List Char) : List Char :=
  if first ≠ '\n' then first :: more
  else if more.isEmpty then [' ']
  else more

/-! ## Quotes -/

/-- The line breaks in front, with the space around them; no separator of documents may begin a
line. -/
def quotedBreaks (lineStart : Bool) : List Char → Except Fault (List Char × List Char)
  | [] => .ok ([], [])
  | c :: rest =>
    if lineStart && atSeparator (c :: rest) then .error .separatorInQuote
    else if isGap c then quotedBreaks false rest
    else if isBreak c then
      (quotedBreaks true rest).map fun (breaks, after) => (plainBreak c :: breaks, after)
    else .ok ([], c :: rest)

/-- The space between two words in quotes. -/
def quotedSpace (s : List Char) : Except Fault (List Char × List Char) :=
  match s.dropWhile isGap with
  | [] => .error .unclosedQuote
  | c :: rest =>
    if isBreak c then
      (quotedBreaks true rest).map fun (breaks, after) => (foldBreaks (plainBreak c) breaks, after)
    else .ok (s.takeWhile isGap, c :: rest)

/-- The character that a backslash and this character stand for. -/
def escaped? (c : Char) : Option Char :=
  [('0', '\x00'), ('a', '\x07'), ('b', '\x08'), ('t', '\t'), ('\t', '\t'), ('n', '\n'),
    ('v', '\x0B'), ('f', '\x0C'), ('r', '\r'), ('e', '\x1B'), (' ', ' '), ('"', '"'), ('\\', '\\'),
    ('/', '/'), ('N', '\u0085'), ('_', '\u00A0'), ('L', '\u2028'), ('P', '\u2029')].lookup c

/-- How many hexadecimal digits follow a backslash and this character. -/
def escapeWidth? : Char → Option Nat
  | 'x' => some 2
  | 'u' => some 4
  | 'U' => some 8
  | _ => none

/-- What a backslash stands for, after it. -/
def escape : List Char → Except Fault (List Char × List Char)
  | [] => .error .badEscape
  | c :: rest =>
    match escaped? c, escapeWidth? c with
    | some plain, _ => .ok ([plain], rest)
    | none, some width =>
      match hexNumber? (rest.take width) with
      | some code =>
        if rest.length < width then .error .badEscape
        else if codePointLimit ≤ code then .error (.badCodePoint code)
        else .ok ([ofCodePoint code], rest.drop width)
      | none => .error .badEscape
    | none, none => if isBreak c then quotedBreaks true rest else .error .badEscape

/-- The rest of a text in quotes; each round takes at least one character. -/
def quotedRest (quote : Char) : Nat → List Char → Except Fault (List Char × List Char)
  | 0, _ => .error .unclosedQuote
  | _ + 1, [] => .error .unclosedQuote
  | fuel + 1, c :: rest =>
    let goOn (part : List Char × List Char) : Except Fault (List Char × List Char) :=
      (quotedRest quote fuel part.2).map fun (more, after) => (part.1 ++ more, after)
    if c = quote then
      match quote, rest with
      -- two single quotes in a row are one that is meant
      | '\'', '\'' :: after => goOn (['\''], after)
      | _, _ => .ok ([], rest)
    else if endsWord (some c) then (quotedSpace (c :: rest)).bind goOn
    else if quote = '"' && c = '\\' then (escape rest).bind goOn
    else goOn ([c], rest)

/-- A text in quotes, after the opening one. -/
def quotedText (quote : Char) (s : List Char) : Except Fault (List Char × List Char) :=
  quotedRest quote (s.length + 1) s

/-! ## Plain words -/

/-- Whether a plain word ends in front of a character, given the one behind it. -/
def endsPlain (inFlow : Bool) (c : Char) (next : Option Char) : Bool :=
  endsWord (some c) ||
    -- a colon ends a word only in front of space, or of a mark inside brackets
    (c == ':' && (endsWord next || (inFlow && next.any fun n => n != '?' && isFlowIndicator n))) ||
    (inFlow && isFlowIndicator c)

/-- One plain word. -/
def plainWord (inFlow : Bool) : List Char → List Char × List Char
  | [] => ([], [])
  | c :: rest =>
    if endsPlain inFlow c rest.head? then ([], c :: rest)
    else
      let (word, after) := plainWord inFlow rest
      (c :: word, after)

/-- The space behind a plain word. -/
structure PlainSpace where
  /-- What it stands for between two words; nothing where the text ends. -/
  text : List Char
  /-- Whether a line ends in it. -/
  breaksLine : Bool
  /-- The spaces at the start of the line behind it. -/
  column : Nat
  /-- What remains. -/
  rest : List Char

/-- The line breaks and spaces behind the end of a line; none where documents are separated. -/
def plainBreaks (lineStart : Bool) (column : Nat) :
    List Char → Option (List Char) × Nat × List Char
  | [] => (some [], column, [])
  | c :: rest =>
    if lineStart && atSeparator (c :: rest) then (none, column, c :: rest)
    else if c = ' ' then plainBreaks false (column + 1) rest
    else if isBreak c then
      let (breaks, last, after) := plainBreaks true 0 rest
      (breaks.map (plainBreak c :: ·), last, after)
    else (some [], column, c :: rest)

/-- Takes the space behind a plain word. -/
def plainSpace (s : List Char) : PlainSpace :=
  match s.dropWhile (· = ' ') with
  | [] => ⟨s, false, 0, []⟩
  | c :: rest =>
    if isBreak c then
      let (breaks, column, after) := plainBreaks true 0 rest
      ⟨(breaks.map (foldBreaks (plainBreak c))).getD [], true, column, after⟩
    else ⟨s.takeWhile (· = ' '), false, 0, c :: rest⟩

/-- A plain text. -/
structure Plain where
  /-- Its characters. -/
  text : List Char
  /-- Whether the text ends at the end of a line. -/
  breaksLine : Bool
  /-- What remains. -/
  rest : List Char

/-- Plain words up to a character that ends them or a line that is not indented so far; each round
takes at least one word. -/
def plainWords (inFlow : Bool) (indent : Int) : Nat → List Char → Plain
  | 0, s => ⟨[], false, s⟩
  | fuel + 1, s =>
    let (word, afterWord) := plainWord inFlow s
    let space := plainSpace afterWord
    let outdented := !inFlow && space.breaksLine && decide ((space.column : Int) < indent)
    -- a word may not begin with the mark of a comment
    let nextEnds := match space.rest with
      | [] => true
      | c :: rest => c == '#' || endsPlain inFlow c rest.head?
    if space.text.isEmpty || outdented || nextEnds then ⟨word, space.breaksLine, space.rest⟩
    else
      let more := plainWords inFlow indent fuel space.rest
      { more with text := word ++ space.text ++ more.text }

/-- A plain text inside a collection of this indentation. -/
def plainText (inFlow : Bool) (indent : Int) (s : List Char) : Plain :=
  plainWords inFlow (indent + 1) (s.length + 1) s

/-! ## Blocks of lines -/

/-- What happens to the line breaks at the end of a block. -/
inductive Chomping where
  /-- None is kept. -/
  | strip
  /-- The first is kept. -/
  | clip
  /-- All are kept. -/
  | keep
  deriving DecidableEq

/-- The first line of a block. -/
structure BlockHeader where
  /-- What happens to the line breaks at the end. -/
  chomping : Chomping
  /-- The indentation within the block around it, if it is given. -/
  indent : Option Nat

/-- Takes the sign for the end of the block. -/
def takeChomping : List Char → Option Chomping × List Char
  | '+' :: rest => (some .keep, rest)
  | '-' :: rest => (some .strip, rest)
  | rest => (none, rest)

/-- Takes the digit for the indentation. -/
def takeIndent : List Char → Except Fault (Option Nat × List Char)
  | c :: rest =>
    if c = '0' then .error .badBlockHeader
    else if c.isDigit then .ok (some (c.toNat - '0'.toNat), rest)
    else .ok (none, c :: rest)
  | [] => .ok (none, [])

/-- Drops spaces and a comment up to the end of the line, and the line break; nothing else may stand
there. -/
def restOfLine? (s : List Char) : Option (List Char) :=
  let afterSpace := s.dropWhile (· = ' ')
  let afterComment := match afterSpace with
    | '#' :: rest => rest.dropWhile fun c => !isBreak c
    | other => other
  if endsLine afterComment.head? then some (afterComment.drop 1) else none

/-- The first line of a block: a sign and a digit in any order. -/
def blockHeader (s : List Char) : Except Fault (BlockHeader × List Char) := do
  let (early, s₁) := takeChomping s
  let (indent, s₂) ← takeIndent s₁
  -- the sign may stand behind the digit, but only once
  let (late, s₃) := if early.isNone && indent.isSome then takeChomping s₂ else (none, s₂)
  match (if endsMark s₃.head? then restOfLine? s₃ else none) with
  | some rest => .ok (⟨(early.or late).getD .clip, indent⟩, rest)
  | none => .error .badBlockHeader

/-- Empty lines, with the widest indentation among them and the line behind them. -/
structure Opening where
  /-- The line breaks. -/
  breaks : List Char
  /-- The widest indentation. -/
  widest : Nat
  /-- The spaces that were taken from the last line. -/
  column : Nat
  /-- What remains. -/
  rest : List Char

/-- Takes empty lines and all spaces behind them. -/
def openingLines (column widest : Nat) : List Char → Opening
  | [] => ⟨[], widest, column, []⟩
  | c :: rest =>
    if c = ' ' then openingLines (column + 1) (max widest (column + 1)) rest
    else if isBreak c then
      let more := openingLines 0 widest rest
      { more with breaks := plainBreak c :: more.breaks }
    else ⟨[], widest, column, c :: rest⟩

/-- Takes empty lines and at most so many spaces behind them. -/
def emptyLines (indent column : Nat) : List Char → List Char × Nat × List Char
  | [] => ([], column, [])
  | c :: rest =>
    if c = ' ' && decide (column < indent) then emptyLines indent (column + 1) rest
    else if isBreak c then
      let (breaks, last, after) := emptyLines indent 0 rest
      (plainBreak c :: breaks, last, after)
    else ([], column, c :: rest)

/-- What a block comes to. -/
structure Block where
  /-- The characters up to the end of the last line. -/
  text : List Char
  /-- The line break of the last line. -/
  lastBreak : List Char
  /-- The line breaks of empty lines at the end. -/
  tail : List Char
  /-- What remains. -/
  rest : List Char

/-- Whether a line begins with space. -/
def isSpaced (s : List Char) : Bool := s.head?.any isGap

/-- The lines of a block after some line breaks; each round takes a line. -/
def blockLines (folded : Bool) (indent : Nat) :
    Nat → List Char → Nat → List Char → Block
  | 0, breaks, _, s => ⟨[], [], breaks, s⟩
  | fuel + 1, breaks, column, s =>
    if column ≠ indent || s.isEmpty then ⟨[], [], breaks, s⟩
    else
      let line := s.takeWhile fun c => !isBreak c
      let afterLine := s.dropWhile fun c => !isBreak c
      let lineBreak := (afterLine.take 1).map plainBreak
      let (empty, next, rest) := emptyLines indent 0 (afterLine.drop 1)
      if next ≠ indent || rest.isEmpty || afterLine.isEmpty then
        ⟨breaks ++ line, lineBreak, empty, rest⟩
      else
        -- a single break between two lines of words is a space when the block is folded
        let joint :=
          if folded && lineBreak == ['\n'] && !isSpaced s && !isSpaced rest then
            (if empty.isEmpty then [' '] else [])
          else lineBreak
        let more := blockLines folded indent fuel empty next rest
        { more with text := breaks ++ line ++ joint ++ more.text }

/-- The characters of a block with its end. -/
def Block.chomp (block : Block) : Chomping → List Char
  | .strip => block.text
  | .clip => block.text ++ block.lastBreak
  | .keep => block.text ++ block.lastBreak ++ block.tail

/-- A block of lines inside a collection of this indentation, after the mark that opens it. -/
def blockText (folded : Bool) (indent : Int) (s : List Char) :
    Except Fault (List Char × List Char) := do
  let (header, lines) ← blockHeader s
  let least := (max (indent + 1) 1).toNat
  let block := match header.indent with
    | some extra =>
      let width := least + extra - 1
      let (breaks, column, rest) := emptyLines width 0 lines
      blockLines folded width (rest.length + 1) breaks column rest
    -- without a digit the widest of the empty lines in front counts as well
    | none =>
      let opening := openingLines 0 0 lines
      blockLines folded (max least opening.widest) (opening.rest.length + 1) opening.breaks
        opening.column opening.rest
  return (block.chomp header.chomping, block.rest)

end Machining.Yaml
