import Machining.Document.Value
import Machining.Text.CodePoint

/-!
# The order of entries

The entries of a mapping can be put in the order of their keys if each comparison that this takes
has an answer: numbers compare with numbers, texts with texts, bytes with bytes, and days with days.
Which of several comparisons without an answer is met first depends on how the order is found;
`sortedByKey` finds it by taking the run in front and inserting each further entry by halves.
-/

namespace Machining.Document

open Machining.Numeric Machining.Text

/-- Why two keys have no order. -/
inductive OrderError where
  /-- Values of these types do not compare. -/
  | types (left right : String)
  /-- A day and a time do not compare. -/
  | dayAndTime
  /-- Of two times, one tells how its clock is set and the other does not. -/
  | clocks
  deriving DecidableEq

/-- The wording of an order error. -/
def OrderError.message : OrderError → String
  | types left right => s!"'<' not supported between instances of '{left}' and '{right}'"
  | dayAndTime => "can't compare datetime.datetime to datetime.date"
  | clocks => "can't compare offset-naive and offset-aware datetimes"

/-! ## Numbers -/

/-- Whether the first finite value is less than the second. -/
def finiteLt (n₁ : Bool) (m₁ : Nat) (e₁ : Int) (n₂ : Bool) (m₂ : Nat) (e₂ : Int) : Bool :=
  let low := min e₁ e₂
  let a : Int := m₁ * 2 ^ (e₁ - low).toNat
  let b : Int := m₂ * 2 ^ (e₂ - low).toNat
  decide ((if n₁ then -a else a) < (if n₂ then -b else b))

/-- Whether the first number is less than the second; nothing compares with "no number". -/
def numberLt : Binary64 → Binary64 → Bool
  | .nan, _ | _, .nan => false
  | .infinite true, .infinite other => !other
  | .infinite true, _ => true
  | .infinite false, _ => false
  | .finite .., .infinite negative => !negative
  | .finite n₁ m₁ e₁, .finite n₂ m₂ e₂ => finiteLt n₁ m₁ e₁ n₂ m₂ e₂

/-- A whole number as an exact value. -/
def exactInt (n : Int) : Binary64 := .finite (decide (n < 0)) n.natAbs 0

namespace Key

/-- The name of a key's type, as it appears in messages. -/
def typeName : Key → String
  | null => "NoneType"
  | bool _ => "bool"
  | int _ => "int"
  | float _ => "float"
  | text _ => "str"
  | bytes _ => "bytes"
  | date d => d.typeName

/-- The number that a key is. -/
def number? : Key → Option Binary64
  | bool b => some (exactInt b.toNat)
  | int n => some (exactInt n)
  | float x => some (Binary64.ofFloat x)
  | _ => none

/-- Whether a day comes before another one. -/
def dateBefore (a b : Date) : Except OrderError Bool :=
  match a.time, b.time with
  | none, none => .ok (decide (a.dayNumber < b.dayNumber))
  | some s, some t =>
    if s.offset.isSome = t.offset.isSome then .ok (decide (a.instant s < b.instant t))
    else .error .clocks
  | _, _ => .error .dayAndTime

/-- Whether bytes come before other bytes. -/
def bytesBefore : List UInt8 → List UInt8 → Bool
  | _, [] => false
  | [], _ :: _ => true
  | a :: s, b :: t => a < b || (a == b && bytesBefore s t)

/-- Whether a key comes before another one. -/
def before (a b : Key) : Except OrderError Bool :=
  match a, b with
  | text s, text t => .ok (precedes s.toList t.toList)
  | bytes s, bytes t => .ok (bytesBefore s t)
  | date d, date e => dateBefore d e
  -- truth values, whole and floating-point numbers compare as numbers
  | _, _ =>
    match a.number?, b.number? with
    | some x, some y => .ok (numberLt x y)
    | _, _ => .error (.types a.typeName b.typeName)

end Key

/-! ## Sorting -/

section Sorting

variable {α : Type}

/-- Splits off the entries in front as long as each of them comes before the one in front of it
(`falls`), or as long as none does; `found` holds the run, the last entry first. -/
def splitRun (falls : Bool) (last : Key × α) (found : List (Key × α)) :
    List (Key × α) → Except OrderError (List (Key × α) × List (Key × α))
  | [] => .ok (last :: found, [])
  | next :: rest => do
    if (← next.1.before last.1) = falls then splitRun falls next (last :: found) rest
    else return (last :: found, next :: rest)

/-- The place of a key among entries that are in order: behind all that it does not come before.
Each round halves what lies between the two bounds. -/
def placeOf (key : Key) (entries : List (Key × α)) (low high : Nat) : Except OrderError Nat :=
  if low < high then
    let middle := (low + high) / 2
    match entries[middle]? with
    | none => .ok low
    | some (other, _) => do
      if ← key.before other then placeOf key entries low middle
      else placeOf key entries (middle + 1) high
  else .ok low
termination_by high - low

/-- Inserts an entry into entries that are in order. -/
def insertSorted (entries : List (Key × α)) (entry : Key × α) :
    Except OrderError (List (Key × α)) := do
  let position ← placeOf entry.1 entries 0 entries.length
  return entries.take position ++ entry :: entries.drop position

/-- Entries in the order of their keys. -/
def sortedByKey (entries : List (Key × α)) : Except OrderError (List (Key × α)) :=
  match entries with
  | first :: second :: rest => do
    let falls ← second.1.before first.1
    let (run, others) ← splitRun falls second [first] rest
    -- a run that falls is turned round; equal keys cannot be in it
    others.foldlM insertSorted (if falls then run else run.reverse)
  | _ => .ok entries

end Sorting

end Machining.Document
