import Machining.Text.Base64
import Machining.Yaml.Node
import Machining.Yaml.Plain

/-!
# Reading YAML

`Yaml.read` reads the one document of a text; an empty text has none and counts as the empty value.
Of a repeated key the last value counts.  The entries of mappings under the key `<<` are merged
into the mapping, but its own entries come before them.

The value of a document is built level by level.  Of several parts that cannot be built, the one on
the outermost level counts, and of two on one level the first.
-/

namespace Machining.Yaml

open Machining.Document Machining.Text

/-! ## Types of nodes -/

/-- What a node is by its type. -/
inductive Form where
  /-- What a text stands for. -/
  | plain (type : PlainType)
  /-- Bytes. -/
  | bytes
  /-- A list. -/
  | list
  /-- A mapping. -/
  | mapping
  /-- The keys of a mapping. -/
  | set
  /-- A list of mappings of one entry each. -/
  | pairs
  /-- None of the known types. -/
  | unknown

/-- Whether a node is more than a text by its type. -/
def Form.isCollection : Form → Bool
  | list | mapping | set | pairs => true
  | plain _ | bytes | unknown => false

/-- What the tags of the format begin with. -/
def tagNamespace : String := "tag:yaml.org,2002:"

/-- The known types by the ends of their tags. -/
def forms : List (String × Form) :=
  [("null", .plain .null), ("bool", .plain .bool), ("int", .plain .int), ("float", .plain .float),
    ("timestamp", .plain .date), ("merge", .plain .merge), ("value", .plain .standard),
    ("str", .plain .text), ("binary", .bytes), ("seq", .list), ("map", .mapping), ("set", .set),
    ("omap", .pairs), ("pairs", .pairs)]

/-- The type that a tag names. -/
def formOfTag (name : String) : Form :=
  if tagNamespace.isPrefixOf name then
    (forms.lookup (String.ofList (name.toList.drop tagNamespace.length))).getD .unknown
  else .unknown

/-- What a node is by its type. -/
def Node.form : Node → Form
  | .scalar (.tagged name) _ | .list _ (.tagged name) _ | .mapping _ (.tagged name) _ =>
    formOfTag name
  | .scalar .implied s => .plain (PlainType.of s)
  | .scalar .usual _ => .plain .text
  | .list .. => .list
  | .mapping .. => .mapping
  | .reference _ => .unknown

/-- Whether mappings are merged under a key. -/
def isMergeKey (key : Node) : Bool :=
  match key.form with
  | .plain .merge => true
  | _ => false

/-- Whether a key is the mark of a default value. -/
def isStandardKey (key : Node) : Bool :=
  match key.form with
  | .plain .standard => true
  | _ => false

/-! ## Names -/

/-- The lists and mappings that have names, by their numbers. -/
abbrev Shared := List (Nat × Node)

/-- The node that another one stands for. -/
def Node.target (shared : Shared) : Node → Node
  | .reference number => (shared.lookup number).getD (.reference number)
  | node => node

/-! ## Texts -/

/-- The text of a node; that of a mapping is the one under its mark of a default value. -/
def textOf (shared : Shared) : Nat → Node → Except ReadError (List Char)
  | 0, _ => .error .tooDeep
  | fuel + 1, node =>
    match node.target shared with
    | .scalar _ s => .ok s
    | .mapping _ _ entries =>
      match entries.find? fun (key, _) => isStandardKey (key.target shared) with
      | some (_, value) => textOf shared fuel value
      | none => .error (.malformed .unknownType)
    | _ => .error (.malformed .unknownType)

/-- The bytes that a text holds in base 64. -/
def readBytes (s : List Char) : Except ReadError Value :=
  if s.all fun c => c.toNat < 128 then
    match Base64.decode? s with
    | some data => .ok (.bytes data)
    | none => .error (.malformed .unknownType)
  else .error (.malformed .unknownType)

/-! ## Merged entries -/

/-- The entries of a mapping node. -/
abbrev NodeEntries := List (Node × Node)

/-- What is merged into a mapping, each with the entries that the mapping has by then: those that
are not merged, and all that follow. -/
def mergesOf (shared : Shared) (seen : NodeEntries) : NodeEntries → List (Node × NodeEntries)
  | [] => []
  | (key, value) :: rest =>
    if isMergeKey (key.target shared) then
      (value, seen.reverse ++ rest) :: mergesOf shared seen rest
    else mergesOf shared ((key, value) :: seen) rest

/-- The entries of a mapping, with those that are merged into it in front; a mapping that is merged
into itself is merged as it is by then. -/
def flattened (shared : Shared) : Nat → List (Nat × NodeEntries) → Nat → NodeEntries →
    Except ReadError NodeEntries
  | 0, _, _, _ => .error .tooDeep
  | fuel + 1, opened, number, entries => do
    let parts ← (mergesOf shared [] entries).mapM fun (value, remaining) => do
      let around := (number, remaining) :: opened
      let merged : Node → Except ReadError NodeEntries := fun node =>
        match node.target shared with
        | .mapping n _ inner => flattened shared fuel around n ((around.lookup n).getD inner)
        | _ => .error (.malformed .badMerge)
      match value.target shared with
      -- of several mappings the first counts most, so it comes last
      | .list _ _ items => return (← items.mapM merged).reverse.flatten
      | node => merged node
    -- what is written in the mapping itself comes behind and wins
    return parts.flatten ++ entries.filter fun (key, _) => !isMergeKey (key.target shared)

/-! ## Values -/

/-- Why a part of a document cannot be built, and the level on which this shows. -/
structure Failure where
  /-- The level. -/
  level : Nat
  /-- The reason. -/
  error : ReadError

/-- A part of a document that may not be built. -/
abbrev Built (α : Type) := Except Failure α

/-- Builds both of two parts; of two failures the one on the outer level counts. -/
def both {α β : Type} : Built α → Built β → Built (α × β)
  | .ok a, .ok b => .ok (a, b)
  | .error e, .error f => .error (if f.level < e.level then f else e)
  | .error e, .ok _ | .ok _, .error e => .error e

/-- Builds all of several parts. -/
def every {α : Type} (parts : List (Built α)) : Built (List α) :=
  parts.foldr (fun part rest => (both part rest).map fun (a, all) => a :: all) (.ok [])

/-- A value as a key; collections cannot be one. -/
def keyOfValue : Value → Except ReadError Key
  | .null => .ok .null
  | .bool b => .ok (.bool b)
  | .int n => .ok (.int n)
  | .float x => .ok (.float x)
  | .text s => .ok (.text s)
  | .bytes data => .ok (.bytes data)
  | .date d => .ok (.date d)
  | .list _ | .tuple _ | .set _ | .mapping _ | .again _ => .error (.malformed .collectionAsKey)

/-- A document that is being built. -/
structure Site where
  /-- The lists and mappings that have names. -/
  shared : Shared
  /-- A bound for the nodes inside one another. -/
  size : Nat

namespace Site

/-- The text of a node. -/
def text (site : Site) (node : Node) : Except ReadError (List Char) :=
  textOf site.shared (site.size + 1) node

/-- The key of an entry, given the value of its node. -/
def key (site : Site) (level : Nat) (node : Node) (value : Built Value) : Built Key :=
  let failed := Except.mapError (Failure.mk level)
  let target := node.target site.shared
  if target.form.isCollection then .error ⟨level, .malformed .collectionAsKey⟩
  else if isStandardKey target then
    failed ((site.text target).map fun s => .text (String.ofList s))
  else value.bind fun v => failed (keyOfValue v)

/-- The entries of a mapping on a level, whose keys and values are built by `value`. -/
def content (site : Site) (value : Node → Built Value) (level number : Nat)
    (entries : NodeEntries) : Built Entries := do
  let all ← (flattened site.shared (2 * site.size + 2) [] number entries).mapError
    (Failure.mk level)
  let parts := all.map fun (node, content) =>
    both (site.key level node (value node)) (value content)
  return Entries.ofList (← every parts)

/-- The value of a node on a level, with the numbers of the lists and mappings around it. -/
def value (site : Site) : Nat → List Nat → Nat → Node → Built Value
  | 0, _, level, _ => .error ⟨level, .tooDeep⟩
  | fuel + 1, around, level, node =>
    let target := node.target site.shared
    let failed {α : Type} (level : Nat) : Except ReadError α → Built α :=
      Except.mapError (Failure.mk level)
    let wrong : Built Value := .error ⟨level + 1, .malformed .unknownType⟩
    match target.form with
    | .plain type => failed level ((site.text target).bind type.read)
    | .bytes => failed level ((site.text target).bind readBytes)
    | .list =>
      match target with
      | .list number _ items =>
        -- a list that is inside itself is built once
        if around.contains number then .ok (.again false)
        else (every (items.map (value site fuel (number :: around) (level + 1)))).map .list
      | _ => wrong
    | .mapping =>
      match target with
      | .mapping number _ entries =>
        if around.contains number then .ok (.again true)
        else
          (site.content (value site fuel (number :: around) (level + 1)) (level + 1) number
            entries).map .mapping
      | _ => wrong
    | .set =>
      match target with
      | .mapping number _ entries =>
        (site.content (value site fuel (number :: around) (level + 1)) (level + 1) number
          entries).map fun all => .set (all.map (·.1))
      | _ => wrong
    | .pairs =>
      match target with
      | .list number _ items =>
        if around.contains number then .ok (.again false)
        else
          -- each item is a mapping with a single entry
          let pair : Node → Built Value := fun item =>
            match item.target site.shared with
            | .mapping _ _ [(key, content)] =>
              (both (value site fuel (number :: around) (level + 1) key)
                (value site fuel (number :: around) (level + 1) content)).map
                  fun (k, v) => .tuple [k, v]
            | _ => .error ⟨level + 1, .malformed .unknownType⟩
          (every (items.map pair)).map .list
      | _ => wrong
    | .unknown => .error ⟨level, .malformed .unknownType⟩

end Site

/-- The value of a document. -/
def Document.value (document : Document) : Except ReadError Value :=
  (Site.value ⟨document.shared, document.size⟩ (document.size + 2) [] 0 document.root).mapError
    (·.error)

/-- Reads the document that characters spell. -/
def readChars (s : List Char) : Except ReadError Value := do
  match ← Document.ofTokens? (Token.ofText s) with
  | some document => document.value
  -- a text without a document
  | none => return .null

/-- Reads the document of a text. -/
def read (s : String) : Except ReadError Value := readChars s.toList

end Machining.Yaml
