import Machining.Yaml.Token

/-!
# Nodes of a YAML document

A document is a tree of nodes: texts, lists and mappings, each perhaps with a tag for its type.  A
node may be given a name by an anchor, and a reference stands for the node of that name, which may
also be one of those around the reference.

* `Document.ofTokens?` builds the only document of a text.
-/

namespace Machining.Yaml

/-- What is known of the type of a node. -/
inductive NodeType where
  /-- It is to be told by what the node looks like. -/
  | implied
  /-- It is what every node of this form is. -/
  | usual
  /-- It is given by a tag. -/
  | tagged (name : String)
  deriving DecidableEq

/-- A node.  Lists and mappings are numbered. -/
inductive Node where
  /-- A text. -/
  | scalar (type : NodeType) (text : List Char)
  /-- A list. -/
  | list (number : Nat) (type : NodeType) (items : List Node)
  /-- A mapping. -/
  | mapping (number : Nat) (type : NodeType) (entries : List (Node × Node))
  /-- The list or the mapping of a number. -/
  | reference (number : Nat)

/-- A node that is not written out. -/
def Node.empty : Node := .scalar .implied []

/-- A document. -/
structure Document where
  /-- The node that holds all others. -/
  root : Node
  /-- The lists and mappings that have names, by their numbers. -/
  shared : List (Nat × Node)
  /-- The number of its tokens, which there are at least as many of as nodes inside one another. -/
  size : Nat

/-- The handles of tags and what they stand for, as far as nothing else is declared. -/
def usualHandles : List (String × String) := [("!", "!"), ("!!", "tag:yaml.org,2002:")]

/-- A document that is being read. -/
structure Progress where
  /-- The tokens that remain. -/
  tokens : List Token
  /-- What the names stand for. -/
  anchors : List (String × Node)
  /-- The lists and mappings that have names, by their numbers. -/
  shared : List (Nat × Node)
  /-- How many lists and mappings there are. -/
  count : Nat
  /-- How many lists and mappings are around the place. -/
  depth : Nat
  /-- What the handles of tags stand for. -/
  handles : List (String × String)

/-- Reading a part of a document. -/
abbrev Reading (α : Type) := StateT Progress (Except ReadError) α

namespace Reading

/-- The next token, which stays. -/
def peek : Reading (Option Token) := do
  match (← get).tokens.head? with
  | some (.fault error) => throw error
  | next => return next

/-- Drops the next token. -/
def drop : Reading Unit := modify fun p => { p with tokens := p.tokens.drop 1 }

/-- Gives up. -/
def fail {α : Type} (fault : Fault) : Reading α := throw fault.error

/-- The type that a tag gives to a node. -/
def typeOfTag : Option (Option String × String) → Reading (Option NodeType)
  | none => return none
  | some (none, suffix) => return some (if suffix = "!" then .implied else .tagged suffix)
  | some (some handle, suffix) => do
    match (← get).handles.lookup handle with
    | none => fail .unknownHandle
    | some expansion =>
      let name := expansion ++ suffix
      return some (if name = "!" then .implied else .tagged name)

/-- What stands in front of a node: a name and a type. -/
structure Properties where
  /-- The name. -/
  anchor : Option String
  /-- The type. -/
  type : Option NodeType

/-- Takes an anchor and a tag, in any order. -/
def properties : Reading Properties := do
  match ← peek with
  | some (.anchor name) =>
    drop
    match ← peek with
    | some (.tag handle suffix) =>
      drop
      return ⟨some name, ← typeOfTag (some (handle, suffix))⟩
    | _ => return ⟨some name, none⟩
  | some (.tag handle suffix) =>
    drop
    match ← peek with
    | some (.anchor name) =>
      drop
      return ⟨some name, ← typeOfTag (some (handle, suffix))⟩
    | _ => return ⟨none, ← typeOfTag (some (handle, suffix))⟩
  | _ => return ⟨none, none⟩

/-- Gives a name to a node, which none has had before. -/
def name (anchor : Option String) (node : Node) : Reading Unit := do
  match anchor with
  | none => return
  | some key =>
    let p ← get
    -- a name is given once, also where the nodes would be alike
    if (p.anchors.lookup key).isSome then fail .repeatedAnchor
    set { p with anchors := (key, node) :: p.anchors }

/-- Names a text. -/
def text (anchor : Option String) (node : Node) : Reading Node := do
  name anchor node
  return node

/-- The most lists and mappings that are read inside one another. -/
def deepest : Nat := 480

/-- Reads a list or a mapping, which has its name already while it is read. -/
def collection (anchor : Option String) (read : Nat → Reading Node) : Reading Node := do
  let number := (← get).count
  -- named before it is read, so that it may hold itself
  name anchor (.reference number)
  if deepest ≤ (← get).depth then throw .tooDeep
  modify fun p => { p with count := p.count + 1, depth := p.depth + 1 }
  let node ← read number
  modify fun p => { p with
    depth := p.depth - 1
    shared := if anchor.isSome then (number, node) :: p.shared else p.shared }
  return node

/-- The node of a name. -/
def named (key : String) : Reading Node := do
  match (← get).anchors.lookup key with
  | some node => return node
  | none => fail .unknownAnchor

/-- Where a node stands. -/
inductive Context where
  /-- Inside brackets. -/
  | flow
  /-- In an indented collection. -/
  | block
  /-- In an entry of an indented mapping, where a list need not be indented. -/
  | entry
  deriving DecidableEq

/-- Whether the value of an entry is left out before a token. -/
def leavesOut (context : Context) : Option Token → Bool
  | some .key | some .value => context ≠ .flow
  | some .blockEnd => context ≠ .flow
  | some .comma | some .closeBrace | some .closeBracket => context = .flow
  | _ => false

/-- What remains after a closing token, which has to be there. -/
def close (isClosing : Token → Bool) : Reading Unit := do
  match ← peek with
  | some token => if isClosing token then drop else fail .unexpectedToken
  | none => fail .unexpectedToken

/-- Whether a token ends an indented collection. -/
def isBlockEnd : Token → Bool
  | .blockEnd => true
  | _ => false

/-- Takes the comma in front of a member, but for the first. -/
def separate (first : Bool) : Reading Unit := do
  if first then return
  match ← peek with
  | some .comma => drop
  | _ => fail .unexpectedToken

/-- A node that is not written out but has a name or a tag. -/
def absent (anchor : Option String) (type : Option NodeType) : Reading Node := do
  if anchor.isSome || type.isSome then text anchor (.scalar (type.getD .implied) [])
  else fail .unexpectedToken

mutual

/-- A node. -/
def node (context : Context) : Nat → Reading Node
  | 0 => fail .unexpectedToken
  | fuel + 1 => do
    match ← peek with
    | some (.alias key) =>
      drop
      named key
    | _ =>
      let ⟨anchor, type⟩ ← properties
      let given := type.getD .usual
      match ← peek with
      | some .item =>
        -- a dash directly under a key begins a list without indentation
        if context = .entry then
          collection anchor fun number => return .list number given (← looseItems fuel)
        else absent anchor type
      | some (.scalar characters plain) =>
        drop
        text anchor (.scalar (type.getD (if plain then .implied else .usual)) characters)
      | some .openBracket =>
        drop
        collection anchor fun number => return .list number given (← flowItems true fuel)
      | some .openBrace =>
        drop
        collection anchor fun number => return .mapping number given (← flowEntries true fuel)
      | some .listStart =>
        if context = .flow then absent anchor type
        else
          drop
          collection anchor fun number => return .list number given (← blockItems fuel)
      | some .mappingStart =>
        if context = .flow then absent anchor type
        else
          drop
          collection anchor fun number => return .mapping number given (← blockEntries fuel)
      | _ => absent anchor type

/-- The items of an indented list. -/
def blockItems : Nat → Reading (List Node)
  | 0 => fail .unexpectedToken
  | fuel + 1 => do
    match ← peek with
    | some .item =>
      drop
      let first ← match ← peek with
        | some .item | some .blockEnd => pure Node.empty
        | _ => node .block fuel
      return first :: (← blockItems fuel)
    | _ =>
      close isBlockEnd
      return []

/-- The items of a list that is not indented. -/
def looseItems : Nat → Reading (List Node)
  | 0 => fail .unexpectedToken
  | fuel + 1 => do
    match ← peek with
    | some .item =>
      drop
      let first ← match ← peek with
        | some .item | some .key | some .value | some .blockEnd => pure Node.empty
        | _ => node .block fuel
      return first :: (← looseItems fuel)
    | _ => return []

/-- The key or the value of an entry, which may be left out. -/
def part (context : Context) : Nat → Reading Node
  | 0 => fail .unexpectedToken
  | fuel + 1 => do
    if leavesOut context (← peek) then return Node.empty
    node context fuel

/-- The value of an entry with its colon; both may be left out. -/
def entryValue (context : Context) : Nat → Reading Node
  | 0 => fail .unexpectedToken
  | fuel + 1 => do
    match ← peek with
    | some .value =>
      drop
      part context fuel
    | _ => return Node.empty

/-- The entries of an indented mapping. -/
def blockEntries : Nat → Reading (List (Node × Node))
  | 0 => fail .unexpectedToken
  | fuel + 1 => do
    match ← peek with
    | some .key =>
      drop
      let key ← part .entry fuel
      let value ← entryValue .entry fuel
      return (key, value) :: (← blockEntries fuel)
    | _ =>
      close isBlockEnd
      return []

/-- The items of a list in brackets; an entry among them is a mapping of its own. -/
def flowItems (first : Bool) : Nat → Reading (List Node)
  | 0 => fail .unexpectedToken
  | fuel + 1 => do
    match ← peek with
    | some .closeBracket =>
      drop
      return []
    | _ =>
      separate first
      match ← peek with
      | some .key =>
        drop
        -- a pair in brackets is a mapping of its own
        let entry ← collection none fun number => do
          let key ← flowKey fuel
          let value ← entryValue .flow fuel
          return .mapping number .usual [(key, value)]
        return entry :: (← flowItems false fuel)
      | some .closeBracket =>
        drop
        return []
      | _ =>
        let item ← node .flow fuel
        return item :: (← flowItems false fuel)

/-- The key of an entry in brackets. -/
def flowKey : Nat → Reading Node
  | 0 => fail .unexpectedToken
  | fuel + 1 => do
    match ← peek with
    | some .value => return Node.empty
    | _ => part .flow fuel

/-- The entries of a mapping in braces. -/
def flowEntries (first : Bool) : Nat → Reading (List (Node × Node))
  | 0 => fail .unexpectedToken
  | fuel + 1 => do
    match ← peek with
    | some .closeBrace =>
      drop
      return []
    | _ =>
      separate first
      match ← peek with
      | some .key =>
        drop
        let key ← flowKey fuel
        let value ← entryValue .flow fuel
        return (key, value) :: (← flowEntries false fuel)
      | some .closeBrace =>
        drop
        return []
      | _ =>
        let key ← node .flow fuel
        return (key, Node.empty) :: (← flowEntries false fuel)

end

/-- The directives in front of a document, as handles of tags. -/
def directives (versioned : Bool) (handles : List (String × String)) :
    List Token → Except ReadError (List (String × String) × List Token)
  | .directive (.version major) :: rest =>
    if versioned then .error (.malformed .repeatedDirective)
    -- only the first major version is known
    else if major ≠ 1 then .error (.malformed .unknownVersion)
    else directives true handles rest
  | .directive (.handle name expansion) :: rest =>
    if (handles.lookup name).isSome then .error (.malformed .repeatedDirective)
    else directives versioned ((name, expansion) :: handles) rest
  | .directive .other :: rest => directives versioned handles rest
  | rest => .ok (handles, rest)

/-- Whether a token ends a document without content. -/
def endsContent : Option Token → Bool
  | none | some .documentStart | some .documentEnd | some (.directive _) => true
  | _ => false

/-- The document whose tokens these are, and the tokens behind it; `isExplicit` tells whether its
content may be left out. -/
def content (isExplicit : Bool) (handles : List (String × String)) (tokens : List Token) :
    Except ReadError (Document × List Token) :=
  if isExplicit && endsContent tokens.head? then .ok (⟨Node.empty, [], 0⟩, tokens)
  else
    (node .block (4 * tokens.length + 4) ⟨tokens, [], [], 0, 0, handles⟩).map
      fun (root, progress) => (⟨root, progress.shared, tokens.length⟩, progress.tokens)

/-- Whether a token is the line behind a document. -/
def isDocumentEnd : Token → Bool
  | .documentEnd => true
  | _ => false

/-- Makes sure that nothing follows a document. -/
def atEnd (tokens : List Token) : Except ReadError Unit :=
  match tokens.dropWhile isDocumentEnd with
  | [] => .ok ()
  | .fault error :: _ => .error error
  | .documentStart :: _ | .directive _ :: _ => .error (.malformed .severalDocuments)
  | _ => .error (.malformed .unexpectedToken)

end Reading

/-- The only document of a text; there may be none. -/
def Document.ofTokens? (tokens : List Token) : Except ReadError (Option Document) := do
  match tokens with
  | [] => return none
  | .fault error :: _ => throw error
  | .directive _ :: _ | .documentStart :: _ =>
    let (declared, rest) ← Reading.directives false [] tokens
    match rest with
    | .documentStart :: body =>
      -- content may be left out behind the line that begins a document
      let (document, after) ← Reading.content true (declared ++ usualHandles) body
      Reading.atEnd after
      return some document
    | .fault error :: _ => throw error
    | _ => throw (.malformed .unexpectedToken)
  | _ =>
    let (document, after) ← Reading.content false usualHandles tokens
    Reading.atEnd after
    return some document

end Machining.Yaml
