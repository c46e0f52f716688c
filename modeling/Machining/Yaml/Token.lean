import Machining.Text.Utf8
import Machining.Yaml.Written

/-!
# Tokens of a YAML text

A text is a row of tokens: words and brackets as they stand there, and marks for what the layout
says. Where a line is indented further than the one before and begins an item or an entry, a list
or a mapping begins; where a line is indented less, it ends.  That a word is the key of an entry
shows only at the colon behind it, so its mark is then put in front of it.

* `Token.ofText` gives the tokens of a text; where it breaks a rule, the last of them says so.
-/

namespace Machining.Yaml

open Machining.Text

/-- A directive in front of a document. -/
inductive Directive where
  /-- The version of the format. -/
  | version (major : Nat)
  /-- What a handle of tags stands for. -/
  | handle (name expansion : String)
  /-- Any other directive. -/
  | other

/-- A piece of a text. -/
inductive Token where
  /-- A directive. -/
  | directive (directive : Directive)
  /-- The line in front of a document. -/
  | documentStart
  /-- The line behind a document. -/
  | documentEnd
  /-- An indented list begins. -/
  | listStart
  /-- An indented mapping begins. -/
  | mappingStart
  /-- An indented list or mapping ends. -/
  | blockEnd
  /-- A list in brackets begins. -/
  | openBracket
  /-- A list in brackets ends. -/
  | closeBracket
  /-- A mapping in braces begins. -/
  | openBrace
  /-- A mapping in braces ends. -/
  | closeBrace
  /-- The comma between members. -/
  | comma
  /-- The dash of an item. -/
  | item
  /-- A key follows. -/
  | key
  /-- The colon of a value. -/
  | value
  /-- A reference to an anchor. -/
  | alias (name : String)
  /-- The name of an anchor. -/
  | anchor (name : String)
  /-- A tag: its handle, if it has one, and the rest. -/
  | tag (handle : Option String) (suffix : String)
  /-- A text; plain words may stand for something else. -/
  | scalar (text : List Char) (plain : Bool)
  /-- The text cannot be read any further. -/
  | fault (error : ReadError)

/-! ## Places -/

/-- A place in a text. -/
structure Place where
  /-- What remains. -/
  rest : List Char
  /-- The line. -/
  line : Nat
  /-- The column. -/
  column : Nat
  /-- The characters in front. -/
  offset : Nat

namespace Place

/-- The place behind the next character. -/
def next (place : Place) : Place :=
  match place.rest with
  | [] => place
  | c :: rest =>
    if isBreak c then ⟨rest, place.line + 1, 0, place.offset + 1⟩
    else if c = byteOrderMark then ⟨rest, place.line, place.column, place.offset + 1⟩
    else ⟨rest, place.line, place.column + 1, place.offset + 1⟩

/-- The place behind so many characters. -/
def skip (place : Place) : Nat → Place
  | 0 => place
  | n + 1 => place.next.skip n

/-- The place where `rest` remains. -/
def moveTo (place : Place) (rest : List Char) : Place :=
  place.skip (place.rest.length - rest.length)

end Place

/-! ## Parts of tokens -/

/-- A name, which must not be empty. -/
def nameOf (s : List Char) (fault : Fault) : Except Fault (String × List Char) :=
  let name := s.takeWhile isNameChar
  if name.isEmpty then .error fault else .ok (String.ofList name, s.dropWhile isNameChar)

/-- Whether the name of an anchor ends here. -/
def endsAnchor (next : Option Char) : Bool :=
  endsWord next || next.any fun c => "?:,]\x7d%@`".toList.contains c

/-- The name of an anchor. -/
def anchorName (s : List Char) : Except Fault (String × List Char) := do
  let (name, rest) ← nameOf s .badAnchor
  if endsAnchor rest.head? then return (name, rest) else throw .badAnchor

/-- Characters written as bytes in hexadecimal, each behind a percent sign. -/
def percentBytes : List Char → Except Fault (List UInt8 × List Char)
  | '%' :: a :: b :: rest =>
    match hexNumber? [a, b] with
    | some n => (percentBytes rest).map fun (bytes, after) => (n.toUInt8 :: bytes, after)
    | none => .error .badTag
  | '%' :: _ => .error .badTag
  | rest => .ok ([], rest)

/-- The characters of a tag; each round takes at least one. -/
def tagChars : Nat → List Char → Except Fault (List Char × List Char)
  | 0, s => .ok ([], s)
  | fuel + 1, s =>
    match s with
    | '%' :: _ => do
      let (bytes, rest) ← percentBytes s
      match Utf8.decode? bytes with
      | .error _ => .error .badTag
      | .ok text => (tagChars fuel rest).map fun (more, after) => (text.toList ++ more, after)
    | c :: rest =>
      if isTagChar c then (tagChars fuel rest).map fun (more, after) => (c :: more, after)
      else .ok ([], s)
    | [] => .ok ([], [])

/-- The text of a tag, which must not be empty. -/
def tagText (s : List Char) (fault : Fault) : Except Fault (String × List Char) := do
  let (text, rest) ← (tagChars (s.length + 1) s).mapError fun _ => fault
  if text.isEmpty then throw fault else return (String.ofList text, rest)

/-- A handle of tags: exclamation marks around a name, or one alone where `mayBeBare` and a space
follows. -/
def handleText (s : List Char) (fault : Fault) : Except Fault (String × List Char) :=
  match s with
  | '!' :: ' ' :: rest => .ok ("!", ' ' :: rest)
  | '!' :: body =>
    match body.dropWhile isNameChar with
    | '!' :: rest => .ok (String.ofList ('!' :: body.takeWhile isNameChar ++ ['!']), rest)
    | _ => .error fault
  | _ => .error fault

/-- Whether a tag begins with a handle between two exclamation marks. -/
def hasHandle (s : List Char) : Bool :=
  (s.takeWhile fun c => !(c == ' ' || isBreak c)).contains '!'

/-- A tag, after its exclamation mark. -/
def tagToken (s : List Char) : Except Fault (Token × List Char) := do
  let (token, rest) ← match s with
    -- a tag in full, between angles
    | '<' :: inside => do
      let (text, after) ← tagText inside .badTag
      match after with
      | '>' :: rest => pure (Token.tag none text, rest)
      | _ => throw .badTag
    | _ =>
      if endsWord s.head? then pure (Token.tag none "!", s)
      else do
        let (handle, body) ← if hasHandle s then handleText ('!' :: s) .badTag else pure ("!", s)
        let (text, rest) ← tagText body .badTag
        pure (Token.tag (some handle) text, rest)
  if endsMark rest.head? then return (token, rest) else throw .badTag

/-- The version after the word for it. -/
def versionDirective (s : List Char) : Except Fault (Directive × List Char) :=
  let body := s.dropWhile (· = ' ')
  let major := body.takeWhile Char.isDigit
  match body.dropWhile Char.isDigit with
  | '.' :: rest =>
    let minor := rest.takeWhile Char.isDigit
    let after := rest.dropWhile Char.isDigit
    if major.isEmpty || minor.isEmpty || !endsMark after.head? then .error .badDirective
    else .ok (.version (Numeric.ofDigits major), after)
  | _ => .error .badDirective

/-- A handle and what it stands for, after the word for them. -/
def handleDirective (s : List Char) : Except Fault (Directive × List Char) := do
  let (name, afterName) ← handleText (s.dropWhile (· = ' ')) .badDirective
  if afterName.head? ≠ some ' ' then throw .badDirective
  let (expansion, rest) ← tagText (afterName.dropWhile (· = ' ')) .badDirective
  if endsMark rest.head? then return (.handle name expansion, rest) else throw .badDirective

/-- A directive, after its percent sign, up to the end of its line. -/
def directiveToken (s : List Char) : Except Fault (Token × List Char) := do
  let (name, afterName) ← nameOf s .badDirective
  if !endsMark afterName.head? then throw .badDirective
  let (directive, rest) ← match name with
    | "YAML" => versionDirective afterName
    | "TAG" => handleDirective afterName
    | _ => pure (Directive.other, afterName.dropWhile fun c => !isBreak c)
  match restOfLine? rest with
  | some after => return (.directive directive, after)
  | none => throw .badDirective

/-! ## The layout -/

/-- A word that may turn out to be a key. -/
structure PossibleKey where
  /-- How many tokens stand in front of it. -/
  tokens : Nat
  /-- Whether nothing but a key can stand there. -/
  required : Bool
  /-- Its place. -/
  place : Place

/-- The text up to a place, as tokens. -/
structure Lexer where
  /-- Where the text goes on. -/
  place : Place
  /-- The tokens so far, the last one first. -/
  tokens : List Token
  /-- How many tokens these are. -/
  count : Nat
  /-- The columns of the indented collections around the place, the innermost first. -/
  columns : List Nat
  /-- Whether a key may begin here. -/
  keyAllowed : Bool
  /-- The possible key outside of brackets. -/
  outerKey : Option PossibleKey
  /-- The possible key inside each pair of brackets around the place, the innermost first. -/
  innerKeys : List (Option PossibleKey)

namespace Lexer

/-- The start of a text. -/
def start (s : List Char) : Lexer := ⟨⟨s, 0, 0, 0⟩, [], 0, [], true, none, []⟩

/-- Whether the place is inside brackets. -/
def inFlow (l : Lexer) : Bool := !l.innerKeys.isEmpty

/-- The indentation of the innermost collection; outside of all, one to the left of the text. -/
def indent (l : Lexer) : Int :=
  match l.columns with
  | [] => -1
  | column :: _ => column

/-- Adds a token. -/
def push (l : Lexer) (token : Token) : Lexer :=
  { l with tokens := token :: l.tokens, count := l.count + 1 }

/-- Moves to the place where `rest` remains. -/
def moveTo (l : Lexer) (rest : List Char) : Lexer := { l with place := l.place.moveTo rest }

/-- The most characters between the beginning of a key and its colon. -/
def longestKey : Nat := 1024

/-- Whether a possible key is out of reach: on another line, or too far away. -/
def isStale (l : Lexer) (key : PossibleKey) : Bool :=
  key.place.line ≠ l.place.line || decide (longestKey < l.place.offset - key.place.offset)

/-- The possible key at this depth of brackets, if it is in reach. -/
def possibleKey? (l : Lexer) : Option PossibleKey :=
  (match l.innerKeys with
    | [] => l.outerKey
    | inner :: _ => inner).filter fun key => !l.isStale key

/-- Sets the possible key at this depth of brackets. -/
def setKey (l : Lexer) (key : Option PossibleKey) : Lexer :=
  match l.innerKeys with
  | [] => { l with outerKey := key }
  | _ :: outer => { l with innerKeys := key :: outer }

/-- Gives up a possible key; one that is required cannot be given up. -/
def dropKey (l : Lexer) : Except Fault Lexer :=
  if l.possibleKey?.any (·.required) then .error .keyWithoutColon else .ok (l.setKey none)

/-- Gives up the possible key outside of brackets if it is out of reach.  One inside brackets is
never required; it only counts as long as it is in reach. -/
def dropStale (l : Lexer) : Except Fault Lexer :=
  let gone := fun key => l.isStale key
  if l.outerKey.any fun key => gone key && key.required then .error .keyWithoutColon
  else .ok { l with outerKey := l.outerKey.filter fun key => !gone key }

/-- Remembers that the next token may be a key. -/
def saveKey (l : Lexer) : Except Fault Lexer :=
  if l.keyAllowed then
    l.dropKey.map fun l =>
      -- a word at the column of its collection has to be a key
      l.setKey (some ⟨l.count, !l.inFlow && l.indent == l.place.column, l.place⟩)
  else .ok l

/-- Ends all collections that are indented further than a column. -/
def outdent (l : Lexer) (column : Int) : Lexer :=
  if l.inFlow then l
  else
    let ended := l.columns.takeWhile fun (c : Nat) => decide (column < Int.ofNat c)
    { l with
      tokens := List.replicate ended.length .blockEnd ++ l.tokens
      count := l.count + ended.length
      columns := l.columns.drop ended.length }

/-- Begins a collection at a column if it is indented further. -/
def indentTo (l : Lexer) (column : Nat) (token : Token) : Lexer :=
  if l.indent < column then { l.push token with columns := column :: l.columns } else l

/-- Drops spaces, comments and empty lines. -/
def skipSpace (l : Lexer) : Lexer :=
  let marked := if l.place.offset = 0 && l.place.rest.head? = some byteOrderMark then
    { l with place := l.place.next } else l
  let (rest, broke) := go false false marked.place.rest
  let moved := marked.moveTo rest
  -- a new line may begin with a key
  if broke && !l.inFlow then { moved with keyAllowed := true } else moved
where
  /-- What remains, and whether a line ended. -/
  go (inComment broke : Bool) : List Char → List Char × Bool
    | [] => ([], broke)
    | c :: rest =>
      if isBreak c then go false true rest
      else if inComment || c = ' ' then go inComment broke rest
      else if c = '#' then go true broke rest
      else (c :: rest, broke)

/-- Begins the next token. -/
def settle (l : Lexer) : Except Fault Lexer :=
  l.skipSpace.dropStale.map fun l => l.outdent l.place.column

/-- The tokens in front of a fault.  As long as a token may turn out to be a key, it and those
behind it are held back, so they are not told when the fault comes up first. -/
def breakOff (l : Lexer) (fault : Fault) : List Token :=
  let keys := (l.outerKey :: l.innerKeys).filterMap fun key? =>
    (key?.filter fun key => !l.isStale key).map (·.tokens)
  let told := keys.foldl min l.count
  l.tokens.reverse.take told ++ [.fault fault.error]

/-- Ends the text. -/
def finish (l : Lexer) : List Token :=
  match (l.outdent (-1)).dropKey with
  | .ok ended => ended.tokens.reverse
  | .error fault => l.breakOff fault

/-- A token of a whole line, which ends all indented collections. -/
def lineToken (l : Lexer) (token : Token) (rest : List Char) : Except Fault Lexer :=
  (l.outdent (-1)).dropKey.map fun l =>
    { l.push token with place := l.place.moveTo rest, keyAllowed := false }

/-- An opening bracket. -/
def opening (l : Lexer) (token : Token) : Except Fault Lexer :=
  l.saveKey.map fun l =>
    { l.push token with
      place := l.place.next, keyAllowed := true, innerKeys := none :: l.innerKeys }

/-- A closing bracket. -/
def closing (l : Lexer) (token : Token) : Except Fault Lexer :=
  match l.innerKeys with
  | [] => .error .unexpectedToken
  | _ :: outer =>
    .ok { l.push token with place := l.place.next, keyAllowed := false, innerKeys := outer }

/-- A comma. -/
def comma (l : Lexer) : Except Fault Lexer :=
  l.dropKey.map fun l => { l.push .comma with place := l.place.next, keyAllowed := true }

/-- Begins an entry of an indented collection where a key may stand. -/
def beginEntry (l : Lexer) (token : Token) (fault : Fault) : Except Fault Lexer :=
  if l.inFlow then .ok l
  else if l.keyAllowed then .ok (l.indentTo l.place.column token)
  else .error fault

/-- The dash of an item. -/
def item (l : Lexer) : Except Fault Lexer := do
  let begun ← (← l.beginEntry .listStart .misplacedItem).dropKey
  return { begun.push .item with place := begun.place.next, keyAllowed := true }

/-- The question mark of a key. -/
def key (l : Lexer) : Except Fault Lexer := do
  let begun ← (← l.beginEntry .mappingStart .misplacedKey).dropKey
  return { begun.push .key with place := begun.place.next, keyAllowed := !begun.inFlow }

/-- Puts the mark of a key, and of a mapping that begins with it, in front of a word. -/
def markKey (l : Lexer) (found : PossibleKey) : Lexer :=
  -- the tokens behind the beginning of the key, which are in front of the list
  let later := l.count - found.tokens
  let begins := !l.inFlow && decide (l.indent < found.place.column)
  let marks := if begins then [Token.key, .mappingStart] else [.key]
  { l.setKey none with
    tokens := l.tokens.take later ++ marks ++ l.tokens.drop later
    count := l.count + marks.length
    columns := if begins then found.place.column :: l.columns else l.columns }

/-- The colon of a value. -/
def value (l : Lexer) : Except Fault Lexer :=
  match l.possibleKey? with
  | some found =>
    let marked := l.markKey found
    .ok { marked.push .value with place := l.place.next, keyAllowed := false }
  | none => do
    let begun ← (← l.beginEntry .mappingStart .misplacedValue).dropKey
    return { begun.push .value with place := begun.place.next, keyAllowed := !begun.inFlow }

/-- A word that may be a key. -/
def word (l : Lexer) (read : List Char → Except Fault (Token × List Char)) (rest : List Char) :
    Except Fault Lexer := do
  let saved ← l.saveKey
  let (token, after) ← read rest
  return { saved.push token with place := saved.place.moveTo after, keyAllowed := false }

/-- A text in quotes. -/
def quoted (l : Lexer) (quote : Char) (rest : List Char) : Except Fault Lexer :=
  l.word (fun s => (quotedText quote s).map fun (text, after) => (.scalar text false, after)) rest

/-- A block of lines. -/
def block (l : Lexer) (folded : Bool) (rest : List Char) : Except Fault Lexer := do
  -- a block of lines is never a key
  let cleared ← l.dropKey
  let (text, after) ← blockText folded l.indent rest
  return { cleared.push (.scalar text false) with
    place := cleared.place.moveTo after, keyAllowed := true }

/-- Plain words. -/
def plain (l : Lexer) : Except Fault Lexer := do
  let saved ← l.saveKey
  let found := plainText l.inFlow l.indent l.place.rest
  return { saved.push (.scalar found.text true) with
    place := saved.place.moveTo found.rest, keyAllowed := found.breaksLine }

/-- Whether plain words may begin with a character, given the one behind it. -/
def startsPlain (inFlow : Bool) (c : Char) (next : Option Char) : Bool :=
  !(isGap c || isBreak c || isIndicator c) ||
    (!endsWord next && (c == '-' || (!inFlow && (c == '?' || c == ':'))))

/-- Takes one token; at the end of the text there is none. -/
def advance (l : Lexer) : Except Fault (Option Lexer) := do
  let l ← l.settle
  match l.place.rest with
  | [] => return none
  | c :: rest =>
    let wordEnds := endsWord rest.head?
    let onLineStart := l.place.column == 0
    some <$>
      if c = '%' && onLineStart then do
        let (token, after) ← directiveToken rest
        l.lineToken token after
      else if onLineStart && atSeparator (c :: rest) then
        l.lineToken (if c = '-' then .documentStart else .documentEnd) (rest.drop 2)
      else if c = '-' && wordEnds then l.item
      else if c = '?' && (l.inFlow || wordEnds) then l.key
      else if c = ':' && (l.inFlow || wordEnds) then l.value
      else if startsPlain l.inFlow c rest.head? then l.plain
      else match c with
        | '[' => l.opening .openBracket
        | '\x7b' => l.opening .openBrace
        | ']' => l.closing .closeBracket
        | '\x7d' => l.closing .closeBrace
        | ',' => l.comma
        | '*' => l.word (fun s => (anchorName s).map fun (name, after) => (.alias name, after)) rest
        | '&' =>
          l.word (fun s => (anchorName s).map fun (name, after) => (.anchor name, after)) rest
        | '!' => l.word tagToken rest
        | '\'' => l.quoted '\'' rest
        | '"' => l.quoted '"' rest
        | '|' => if l.inFlow then throw .strayCharacter else l.block false rest
        | '>' => if l.inFlow then throw .strayCharacter else l.block true rest
        | _ => throw .strayCharacter

/-- Takes all tokens up to the first fault; each round takes at least one character. -/
def run : Nat → Lexer → List Token
  | 0, l => l.finish
  | fuel + 1, l =>
    match l.advance with
    | .error fault => l.breakOff fault
    | .ok (some next) => run fuel next
    | .ok none =>
      match l.settle with
      | .ok last => last.finish
      | .error fault => l.breakOff fault

end Lexer

/-- The tokens of a text. -/
def Token.ofText (s : List Char) : List Token :=
  if s.all isAllowed then (Lexer.start s).run (s.length + 1)
  else [.fault (.malformed .forbiddenCharacter)]

end Machining.Yaml
