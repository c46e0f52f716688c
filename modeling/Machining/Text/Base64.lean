/-!
# Base 64

Bytes written in printed ASCII: each digit holds six bits.  Reading passes over characters that are
no digits, and ends at the padding that completes a group of four.
-/

namespace Machining.Text.Base64

/-- The 64 digits. -/
def digits : List Char :=
  "ABCDEFGHIJKLMNOPQRSTUVWXYZabcdefghijklmnopqrstuvwxyz0123456789+/".toList

/-- The value of a digit. -/
def digitValue? (c : Char) : Option Nat := digits.findIdx? (· == c)

/-- The digits of bits, six bits each, the last ones filled with zeros; each round takes at least
one bit. -/
def ofBits (bits : List Bool) : Nat → List Char
  | 0 => []
  | fuel + 1 =>
    if bits.isEmpty then []
    else
      let six := bits.take 6 ++ List.replicate (6 - bits.length) false
      let digit := six.foldl (fun n b => 2 * n + b.toNat) 0
      digits.getD digit 'A' :: ofBits (bits.drop 6) fuel

/-- What has been read of a group of four digits. -/
structure Group where
  /-- How many digits. -/
  count : Nat
  /-- The bits that are not yet part of a byte. -/
  bits : Nat
  /-- How many signs of padding follow. -/
  padding : Nat

/-- Takes a digit into a group; the byte that it completes, if there is one. -/
def Group.take (group : Group) (value : Nat) : Group × List UInt8 :=
  match group.count with
  | 0 => (⟨1, value, 0⟩, [])
  | 1 => (⟨2, value % 16, 0⟩, [(group.bits * 4 + value / 16).toUInt8])
  | 2 => (⟨3, value % 4, 0⟩, [(group.bits * 16 + value / 4).toUInt8])
  | _ => (⟨0, 0, 0⟩, [(group.bits * 64 + value).toUInt8])

/-- Reads bytes behind a group that has begun; nothing if the last group is not complete. -/
def bytesFrom? (group : Group) : List Char → Option (List UInt8)
  | [] => if group.count = 0 then some [] else none
  | c :: rest =>
    if c = '=' then
      if 2 ≤ group.count then
        -- the padding completes the group, and what follows does not count
        if 4 ≤ group.count + group.padding + 1 then some []
        else bytesFrom? { group with padding := group.padding + 1 } rest
      else bytesFrom? group rest
    else
      match digitValue? c with
      | none => bytesFrom? group rest
      | some value =>
        let (next, done) := group.take value
        (bytesFrom? next rest).map (done ++ ·)

/-- Reads bytes. -/
def decode? (s : List Char) : Option (List UInt8) := bytesFrom? ⟨0, 0, 0⟩ s

end Machining.Text.Base64
