/-!
# UTF-8

A sequence of bytes is read as text piece by piece.  A piece is a character, or a maximal run of
bytes that begins like a character and does not end like one.  `decodeLossy` puts the replacement
character for each of these runs; `decode?` gives up at the first.
-/

namespace Machining.Text.Utf8

/-- Why bytes are no character. -/
inductive Flaw where
  /-- No character begins with this byte. -/
  | invalidStart
  /-- A byte inside a character is wrong. -/
  | invalidContinuation
  /-- The bytes end inside a character. -/
  | unexpectedEnd
  deriving DecidableEq

/-- The wording of a flaw. -/
def Flaw.text : Flaw → String
  | invalidStart => "invalid start byte"
  | invalidContinuation => "invalid continuation byte"
  | unexpectedEnd => "unexpected end of data"

/-- How a character goes on after its first byte: the bits so far, how many bytes follow, and the
range of the next byte. -/
structure Lead where
  /-- The bits that the first byte gives. -/
  bits : Nat
  /-- How many bytes follow. -/
  count : Nat
  /-- The least next byte. -/
  low : Nat
  /-- The greatest next byte. -/
  high : Nat

/-- What a first byte announces, if a character may begin with it. -/
def lead? (b : Nat) : Option Lead :=
  if b < 0x80 then some ⟨b, 0, 0x80, 0xBF⟩
  else if b < 0xC2 then none
  else if b < 0xE0 then some ⟨b - 0xC0, 1, 0x80, 0xBF⟩
  else if b < 0xF0 then
    some ⟨b - 0xE0, 2, if b = 0xE0 then 0xA0 else 0x80, if b = 0xED then 0x9F else 0xBF⟩
  else if b < 0xF5 then
    some ⟨b - 0xF0, 3, if b = 0xF0 then 0x90 else 0x80, if b = 0xF4 then 0x8F else 0xBF⟩
  else none

/-- One piece of a sequence of bytes. -/
inductive Piece where
  /-- A character. -/
  | char (c : Char)
  /-- Bytes that are no character: how many, the first of them, and why. -/
  | bad (size : Nat) (first : UInt8) (flaw : Flaw)
  deriving DecidableEq

/-- What is being read: a character of which some bytes have been seen. -/
structure Pending where
  /-- The first byte. -/
  first : UInt8
  /-- How many bytes have been seen. -/
  seen : Nat
  /-- What has to follow. -/
  lead : Lead

/-- Begins a character at a byte. -/
def begin (b : UInt8) : List Piece × Option Pending :=
  match lead? b.toNat with
  | none => ([.bad 1 b .invalidStart], none)
  | some ⟨bits, 0, _, _⟩ => ([.char (Char.ofNat bits)], none)
  | some lead => ([], some ⟨b, 1, lead⟩)

/-- Reads one more byte. -/
def step (pending : Option Pending) (b : UInt8) : List Piece × Option Pending :=
  match pending with
  | none => begin b
  | some p =>
    if p.lead.low ≤ b.toNat ∧ b.toNat ≤ p.lead.high then
      let bits := p.lead.bits * 0x40 + (b.toNat - 0x80)
      if p.lead.count ≤ 1 then ([.char (Char.ofNat bits)], none)
      else ([], some ⟨p.first, p.seen + 1, ⟨bits, p.lead.count - 1, 0x80, 0xBF⟩⟩)
    else
      -- the byte that does not fit may begin the next character
      let (pieces, next) := begin b
      (.bad p.seen p.first .invalidContinuation :: pieces, next)

/-- Reads all bytes; the pieces come out last first. -/
def pieces (bytes : List UInt8) : List Piece :=
  let (found, pending) := bytes.foldl
    (fun (found, pending) b =>
      let (more, next) := step pending b
      (more.reverse ++ found, next)) (([] : List Piece), none)
  let all := match pending with
    | some p => Piece.bad p.seen p.first .unexpectedEnd :: found
    | none => found
  all.reverse

/-- Reads bytes as text, with a replacement character for every run of bytes that is none. -/
def decodeLossy (bytes : List UInt8) : String :=
  String.ofList ((pieces bytes).map fun
    | .char c => c
    | .bad .. => '\uFFFD')

/-- A run of bytes that is no character, and where it begins. -/
structure DecodeError where
  /-- The offset of the first byte. -/
  offset : Nat
  /-- How many bytes there are. -/
  size : Nat
  /-- The first byte. -/
  first : UInt8
  /-- What is wrong. -/
  flaw : Flaw
  deriving DecidableEq

/-- The wording of a decode error. -/
def DecodeError.message (e : DecodeError) : String :=
  let digits := String.ofList (Nat.toDigits 16 e.first.toNat)
  let place :=
    if e.size = 1 then s!"byte 0x{digits} in position {e.offset}"
    else s!"bytes in position {e.offset}-{e.offset + e.size - 1}"
  s!"'utf-8' codec can't decode {place}: {e.flaw.text}"

/-- Reads bytes as text; fails at the first run of bytes that is none. -/
def decode? (bytes : List UInt8) : Except DecodeError String :=
  go 0 [] (pieces bytes)
where
  /-- Collects characters from an offset on. -/
  go (offset : Nat) (found : List Char) : List Piece → Except DecodeError String
    | [] => .ok (String.ofList found.reverse)
    | .char c :: rest => go (offset + c.utf8Size) (c :: found) rest
    | .bad size first flaw :: _ => .error ⟨offset, size, first, flaw⟩

/-- The bytes of a text. -/
def encode (s : String) : List UInt8 := s.toUTF8.toList

end Machining.Text.Utf8
