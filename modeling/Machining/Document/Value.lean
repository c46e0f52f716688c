import Machining.Numeric.Binary64

/-!
# Documents

A document is the data that a structured text holds: numbers, texts, lists and mappings in any
nesting.  Analysis results, job files, session scripts and settings all arrive as documents.  A
mapping keeps its entries in the order in which their keys first came.  Two keys are one if they
are the same value, however it is written: whole numbers, floating-point numbers and truth values
are compared as numbers, and times as instants where they tell how their clocks are set.

* `Entries.get?_put_self`, `Entries.get?_put_of_not_agrees`: what a mapping holds after an entry is
  put.
* `Entries.get?_erase_self`, `Entries.get?_erase_of_not_agrees`: what it holds after one is removed.
-/

namespace Machining.Document

open Machining.Numeric

/-- A time of the day. -/
structure TimeOfDay where
  /-- The hour. -/
  hour : Nat
  /-- The minute. -/
  minute : Nat
  /-- The second. -/
  second : Nat
  /-- The microsecond. -/
  micro : Nat
  /-- How many minutes the clock is ahead of the common zone, where this is said. -/
  offset : Option Int
  deriving DecidableEq

/-- A day of the calendar, perhaps with a time. -/
structure Date where
  /-- The year. -/
  year : Nat
  /-- The month, from one. -/
  month : Nat
  /-- The day of the month, from one. -/
  day : Nat
  /-- The time of the day. -/
  time : Option TimeOfDay
  deriving DecidableEq

/-- The short name of a day's type, as it appears in messages. -/
def Date.shortTypeName (d : Date) : String := if d.time.isSome then "datetime" else "date"

/-- The name of a day's type, as it appears in messages. -/
def Date.typeName (d : Date) : String := "datetime." ++ d.shortTypeName

namespace Date

/-- The number of days from the first of March of the year zero to a day; months count from March,
so that the leap day ends a year. -/
def dayNumber (d : Date) : Int :=
  let year : Int := if d.month ≤ 2 then (d.year : Int) - 1 else d.year
  let month : Int := (d.month + 9 : Nat) % 12
  365 * year + year / 4 - year / 100 + year / 400 + (153 * month + 2) / 5 + d.day - 1

/-- The number of microseconds from midnight to a time. -/
def microsOfDay (t : TimeOfDay) : Int :=
  ((t.hour * 60 + t.minute) * 60 + t.second) * 1000000 + t.micro

/-- The instant of a day with a time, by its own clock or by that of the common zone, in
microseconds. -/
def instant (d : Date) (t : TimeOfDay) : Int :=
  d.dayNumber * 86400000000 + microsOfDay t - (t.offset.getD 0) * 60000000

end Date

/-- The key of an entry. -/
inductive Key where
  /-- The empty value as a key. -/
  | null
  /-- A truth value as a key. -/
  | bool (b : Bool)
  /-- A whole number as a key. -/
  | int (n : Int)
  /-- A floating-point number as a key. -/
  | float (x : Float)
  /-- A text as a key. -/
  | text (s : String)
  /-- Bytes as a key. -/
  | bytes (data : List UInt8)
  /-- A day as a key. -/
  | date (d : Date)
  deriving DecidableEq

namespace Key

/-- What a key stands for, however it is written. -/
inductive Meaning where
  /-- The empty value. -/
  | null
  /-- A whole number. -/
  | whole (n : Int)
  /-- A number that is not whole, or an infinity. -/
  | real (x : Float)
  /-- No number. -/
  | notNumber
  /-- A text. -/
  | text (s : String)
  /-- Bytes. -/
  | bytes (data : List UInt8)
  /-- A day. -/
  | day (number : Int)
  /-- A time by a clock of which nothing is known. -/
  | clock (micros : Int)
  /-- An instant. -/
  | instant (micros : Int)
  deriving DecidableEq

/-- What a floating-point number stands for. -/
def meaningOfFloat (x : Float) : Meaning :=
  match Binary64.ofFloat x with
  | .nan => .notNumber
  | .infinite _ => .real x
  | .finite negative mantissa exponent =>
    let (up, down) := powerParts 2 exponent
    -- a number without a fraction is one with the whole number of its value
    if mantissa * up % down = 0 then
      let size : Int := mantissa * up / down
      .whole (if negative then -size else size)
    else .real x

/-- What a key stands for. -/
def meaning : Key → Meaning
  | null => .null
  | bool b => .whole b.toNat
  | int n => .whole n
  | float x => meaningOfFloat x
  | text s => .text s
  | bytes data => .bytes data
  | date d =>
    match d.time with
    | none => .day d.dayNumber
    | some t => if t.offset.isSome then .instant (d.instant t) else .clock (d.instant t)

/-- Whether two keys are one. -/
def agrees (a b : Key) : Bool := a.meaning = b.meaning

@[simp] theorem agrees_refl (a : Key) : a.agrees a = true := by simp [agrees]

theorem agrees_congr {a b : Key} (h : a.agrees b = true) (c : Key) : a.agrees c = b.agrees c := by
  simp only [agrees, decide_eq_true_eq] at h
  simp only [agrees, h]

end Key

/-- A piece of data. -/
inductive Value where
  /-- The empty value. -/
  | null
  /-- A truth value. -/
  | bool (b : Bool)
  /-- A whole number. -/
  | int (n : Int)
  /-- A floating-point number. -/
  | float (x : Float)
  /-- A text. -/
  | text (s : String)
  /-- Bytes. -/
  | bytes (data : List UInt8)
  /-- A day. -/
  | date (d : Date)
  /-- A list. -/
  | list (items : List Value)
  /-- A row of a fixed length. -/
  | tuple (items : List Value)
  /-- A set. -/
  | set (members : List Key)
  /-- A mapping. -/
  | mapping (entries : List (Key × Value))
  /-- One of the lists or mappings around this place, once more. -/
  | again (isMapping : Bool)
  deriving Inhabited

/-- A key as a value. -/
def Key.value : Key → Value
  | null => .null
  | bool b => .bool b
  | int n => .int n
  | float x => .float x
  | text s => .text s
  | bytes data => .bytes data
  | date d => .date d

/-- The entries of a mapping in order. -/
abbrev Entries := List (Key × Value)

namespace Entries

/-- The value of a key. -/
def get? (key : Key) : Entries → Option Value
  | [] => none
  | (k, v) :: rest => if k.agrees key then some v else get? key rest

/-- Sets the value of a key: in its old place and under the key that is there, or at the end. -/
def put (key : Key) (value : Value) : Entries → Entries
  | [] => [(key, value)]
  -- the key that came first stays, though it may be written otherwise
  | (k, v) :: rest => if k.agrees key then (k, value) :: rest else (k, v) :: put key value rest

/-- The entries without a key. -/
def erase (key : Key) (entries : Entries) : Entries :=
  entries.filter fun (k, _) => !k.agrees key

/-- Puts entries one after another, so that the last of one key counts. -/
def ofList (entries : List (Key × Value)) : Entries :=
  entries.foldl (fun all (key, value) => put key value all) []

theorem get?_put_self (key : Key) (value : Value) (entries : Entries) :
    get? key (put key value entries) = some value := by
  induction entries with
  | nil => simp [put, get?]
  | cons entry rest ih =>
    obtain ⟨k, v⟩ := entry
    by_cases h : k.agrees key <;> simp [put, get?, h, ih]

theorem get?_put_of_not_agrees {key other : Key} (value : Value) (entries : Entries)
    (h : key.agrees other = false) :
    get? other (put key value entries) = get? other entries := by
  induction entries with
  | nil => simp [put, get?, h]
  | cons entry rest ih =>
    obtain ⟨k, v⟩ := entry
    by_cases hk : k.agrees key
    · simp [put, get?, hk, Key.agrees_congr hk other, h]
    · by_cases ho : k.agrees other <;> simp [put, get?, hk, ho, ih]

theorem get?_erase_self (key : Key) (entries : Entries) : get? key (erase key entries) = none := by
  induction entries with
  | nil => rfl
  | cons entry rest ih =>
    obtain ⟨k, v⟩ := entry
    unfold erase at ih ⊢
    by_cases h : k.agrees key <;> simp [get?, h, ih]

theorem get?_erase_of_not_agrees {key other : Key} (entries : Entries)
    (h : key.agrees other = false) : get? other (erase key entries) = get? other entries := by
  induction entries with
  | nil => rfl
  | cons entry rest ih =>
    obtain ⟨k, v⟩ := entry
    unfold erase at ih ⊢
    by_cases hk : k.agrees key
    · simp [get?, hk, Key.agrees_congr hk other, h, ih]
    · by_cases ho : k.agrees other <;> simp [get?, hk, ho, ih]

end Entries

namespace Value

/-- The value under a text key, of a mapping that has it. -/
def field? (name : String) : Value → Option Value
  | mapping entries => Entries.get? (.text name) entries
  | _ => none

/-- A mapping with text keys. -/
def ofFields (fields : List (String × Value)) : Value :=
  .mapping (fields.map fun (name, value) => (.text name, value))

/-- Whether a value counts as empty: the empty value, "no", a zero, or nothing inside. -/
def isEmpty : Value → Bool
  | null => true
  | bool b => !b
  | int n => n == 0
  | float x => x == Float.ofNat 0
  | text s => s.isEmpty
  | bytes data => data.isEmpty
  | date _ | again _ => false
  | list items | tuple items => items.isEmpty
  | set members => members.isEmpty
  | mapping entries => entries.isEmpty

/-- The members of a list, a row or a set. -/
def members? : Value → Option (List Value)
  | list items | tuple items => some items
  | set members => some (members.map Key.value)
  | again false => some []
  | _ => none

/-- The entries of a mapping. -/
def entries? : Value → Option Entries
  | mapping entries => some entries
  | again true => some []
  | _ => none

/-- The name of a value's type, as it appears in messages. -/
def typeName : Value → String
  | null => "NoneType"
  | bool _ => "bool"
  | int _ => "int"
  | float _ => "float"
  | text _ => "str"
  | bytes _ => "bytes"
  | date d => d.typeName
  | list _ | again false => "list"
  | tuple _ => "tuple"
  | set _ => "set"
  | mapping _ | again true => "dict"

end Value

end Machining.Document
