import Machining.Text.Quoted

/-!
# What a template may pick from a text

A template may pick a character of a text, but also the type of the text: what it is called, what
it is based on, and which operations it has.  A `Part` is whatever can be reached in this way.

* `Part.member` follows a name, `Part.item` an index.
* `Part.shown` is how a part shows itself.
-/

namespace Machining.Text.Template

/-- The type of a part. -/
inductive PartType where
  /-- Texts. -/
  | text
  /-- Whatever there is. -/
  | any
  /-- Types. -/
  | type
  /-- Rows of parts. -/
  | row
  /-- Nothing. -/
  | nothing
  /-- Operations of a text. -/
  | operation
  /-- Operations of a text that have signs of their own. -/
  | sign
  /-- Operations of all texts. -/
  | method
  /-- Operations of all texts that have signs of their own. -/
  | slot
  deriving DecidableEq

/-- The name of a type. -/
def PartType.name : PartType → String
  | text => "str"
  | any => "object"
  | type => "type"
  | row => "tuple"
  | nothing => "NoneType"
  | operation => "builtin_function_or_method"
  | sign => "method-wrapper"
  | method => "method_descriptor"
  | slot => "wrapper_descriptor"

/-- The types that a type is based on. -/
def PartType.bases : PartType → List PartType
  | any => []
  | _ => [any]

/-- What a type says about itself. -/
def PartType.account? : PartType → Option String
  | text =>
    some ("str(object='') -> str\nstr(bytes_or_buffer[, encoding[, errors]]) -> str\n\n" ++
      "Create a new string object from the given object. If encoding or\n" ++
      "errors is specified, then the object must expose a data buffer\n" ++
      "that will be decoded using the given encoding and error handler.\n" ++
      "Otherwise, returns the result of object.__str__() (if defined)\nor repr(object).\n" ++
      "encoding defaults to sys.getdefaultencoding().\nerrors defaults to 'strict'.")
  | any =>
    some ("The base class of the class hierarchy.\n\n" ++
      "When called, it accepts no arguments and returns a new featureless\n" ++
      "instance that has no instance attributes and cannot be given any.\n")
  | type =>
    some ("type(object) -> the object's type\n" ++
      "type(name, bases, dict, **kwds) -> a new type")
  | row =>
    some ("Built-in immutable sequence.\n\n" ++
      "If no argument is given, the constructor returns an empty tuple.\n" ++
      "If iterable is specified the tuple is initialized from iterable's items.\n\n" ++
      "If the argument is a tuple, the return value is the same object.")
  | _ => none

/-- How a type shows itself. -/
def PartType.shown (t : PartType) : String := "<class '" ++ t.name ++ "'>"

/-! ## Operations -/

/-- An operation that a text has. -/
structure Operation where
  /-- Its name. -/
  name : String
  /-- The type that it comes from. -/
  owner : PartType
  /-- Whether it has a sign of its own. -/
  hasSign : Bool
  deriving DecidableEq

/-- The operations that texts have of themselves. -/
def textOperations : List String :=
  ["__format__", "__getnewargs__", "__sizeof__", "capitalize", "casefold", "center", "count",
   "encode", "endswith", "expandtabs", "find", "format", "format_map", "index", "isalnum",
   "isalpha", "isascii", "isdecimal", "isdigit", "isidentifier", "islower", "isnumeric",
   "isprintable", "isspace", "istitle", "isupper", "join", "ljust", "lower", "lstrip",
   "partition", "removeprefix", "removesuffix", "replace", "rfind", "rindex", "rjust",
   "rpartition", "rsplit", "rstrip", "split", "splitlines", "startswith", "strip", "swapcase",
   "title", "translate", "upper", "zfill"]

/-- The operations that texts have of themselves and that have signs. -/
def textSigns : List String :=
  ["__add__", "__contains__", "__eq__", "__ge__", "__getattribute__", "__getitem__", "__gt__",
   "__hash__", "__iter__", "__le__", "__len__", "__lt__", "__mod__", "__mul__", "__ne__",
   "__repr__", "__rmod__", "__rmul__", "__str__"]

/-- The operations that everything has. -/
def anyOperations : List String :=
  ["__dir__", "__format__", "__getstate__", "__reduce__", "__reduce_ex__", "__sizeof__"]

/-- The operations that everything has and that have signs. -/
def anySigns : List String :=
  ["__delattr__", "__eq__", "__ge__", "__getattribute__", "__gt__", "__hash__", "__init__",
   "__le__", "__lt__", "__ne__", "__repr__", "__setattr__", "__str__"]

/-- The operation of a name that parts of a type have. -/
def operation? (t : PartType) (name : String) : Option Operation :=
  if t = .text && textOperations.contains name then some ⟨name, .text, false⟩
  else if t = .text && textSigns.contains name then some ⟨name, .text, true⟩
  else if anyOperations.contains name then some ⟨name, .any, false⟩
  else if anySigns.contains name then some ⟨name, .any, true⟩
  else none

/-! ## Parts -/

/-- What a template may pick. -/
inductive Part where
  /-- A text. -/
  | text (s : List Char)
  /-- A type. -/
  | type (t : PartType)
  /-- A row of types. -/
  | row (types : List PartType)
  /-- An operation of a text. -/
  | bound (operation : Operation) (s : List Char)
  /-- An operation of all texts. -/
  | unbound (operation : Operation)
  /-- Nothing. -/
  | nothing
  deriving DecidableEq

namespace Part

/-- The type of a part. -/
def typeOf : Part → PartType
  | text _ => .text
  | type _ => .type
  | row _ => .row
  | bound operation _ => if operation.hasSign then .sign else .operation
  | unbound operation => if operation.hasSign then .slot else .method
  | nothing => .nothing

/-- How a part is called in a complaint about its members. -/
def holder : Part → String
  | type t => "type object '" ++ t.name ++ "'"
  | part => "'" ++ part.typeOf.name ++ "' object"

/-- How a part shows itself on its own. -/
def shown : Part → String
  | text s => String.ofList s
  | type t => t.shown
  | row [single] => "(" ++ single.shown ++ ",)"
  | row types => "(" ++ String.intercalate ", " (types.map PartType.shown) ++ ")"
  | bound ⟨name, _, true⟩ _ => "<method-wrapper '" ++ name ++ "' of str object at 0x0>"
  | bound ⟨name, _, false⟩ _ => "<built-in method " ++ name ++ " of str object at 0x0>"
  | unbound ⟨name, owner, true⟩ => s!"<slot wrapper '{name}' of '{owner.name}' objects>"
  | unbound ⟨name, owner, false⟩ => s!"<method '{name}' of '{owner.name}' objects>"
  | nothing => "None"

/-- A text as a part. -/
def ofString (s : String) : Part := text s.toList

/-- What a type says under a name. -/
def memberOfType? (t : PartType) (name : String) : Option Part :=
  match name with
  | "__class__" => some (type .type)
  | "__name__" | "__qualname__" => some (ofString t.name)
  | "__module__" => some (ofString "builtins")
  | "__bases__" => some (row t.bases)
  | "__base__" => some ((t.bases.head?).elim nothing type)
  | "__mro__" => some (row (t :: t.bases))
  | "__doc__" => t.account?.map ofString
  | _ => (operation? t name).map unbound

/-- What an operation of a type says under a name. -/
def memberOfOperation? (t : PartType) (operation : Operation) (name : String) : Option Part :=
  match name with
  | "__name__" => some (ofString operation.name)
  | "__qualname__" => some (ofString (t.name ++ "." ++ operation.name))
  | _ => none

/-- What a part has under a name. -/
def member? (part : Part) (name : String) : Option Part :=
  match part, name with
  | type t, _ => memberOfType? t name
  | _, "__class__" => some (type part.typeOf)
  | text _, "__doc__" => (PartType.account? .text).map ofString
  | text s, _ => (operation? .text name).map (bound · s)
  | row _, "__doc__" => (PartType.account? .row).map ofString
  | bound _ s, "__self__" => some (text s)
  | bound operation _, _ =>
    if name = "__objclass__" && operation.hasSign then some (type operation.owner)
    else memberOfOperation? (if operation.hasSign then operation.owner else .text) operation name
  | unbound operation, "__objclass__" => some (type operation.owner)
  | unbound operation, _ => memberOfOperation? operation.owner operation name
  | _, _ => none

/-- Why a part has no item. -/
inductive ItemFault where
  /-- The index is beyond the end. -/
  | beyondEnd (row : String)
  /-- The part has no items, or none under such an index. -/
  | noItems (complaint : String)
  deriving DecidableEq

/-- The item of a part at an index; without an index, at a text. -/
def item (part : Part) (index : Option Nat) : Except ItemFault Part :=
  match part, index with
  | text s, some i => (s[i]?).elim (.error (.beyondEnd "string")) fun c => .ok (text [c])
  | text _, none => .error (.noItems "string indices must be integers, not 'str'")
  | row types, some i => (types[i]?).elim (.error (.beyondEnd "tuple")) fun t => .ok (type t)
  | row _, none => .error (.noItems "tuple indices must be integers or slices, not str")
  | type t, _ => .error (.noItems s!"type '{t.name}' is not subscriptable")
  | other, _ => .error (.noItems s!"'{other.typeOf.name}' object is not subscriptable")

end Part

end Machining.Text.Template
