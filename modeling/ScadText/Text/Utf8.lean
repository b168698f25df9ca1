import ScadText.Text.Hexadecimal

/-!
# Reading UTF-8

A character is written in one to four bytes. The first byte says how many follow and which range the
next one must lie in, so that no character has two forms and no surrogate has any; all later bytes
lie in one range. Reading stops at the first sequence that is broken.

## Main definitions

* `Lead`, `lead?`: what the first byte of a sequence asks for.
* `Fault`: where and why reading stops, with its message.
* `decode`: the text of a list of bytes.
-/

namespace ScadText.Utf8

/-- The bits which a first byte gives, and the range of each byte that must follow. -/
structure Lead where
  bits : Nat
  ranges : List (Nat × Nat)
  deriving DecidableEq, Repr

/-- The range of most of the bytes that continue a sequence. -/
def tail : Nat × Nat := (0x80, 0xBF)

/-- What a first byte asks for, if it can be one. -/
def lead? (b : Nat) : Option Lead :=
  if b < 0x80 then some ⟨b, []⟩
  else if b < 0xC2 then none
  else if b < 0xE0 then some ⟨b - 0xC0, [tail]⟩
  else if b < 0xF0 then
    let second := if b = 0xE0 then (0xA0, 0xBF) else if b = 0xED then (0x80, 0x9F) else tail
    some ⟨b - 0xE0, [second, tail]⟩
  else if b < 0xF5 then
    let second := if b = 0xF0 then (0x90, 0xBF) else if b = 0xF4 then (0x80, 0x8F) else tail
    some ⟨b - 0xF0, [second, tail, tail]⟩
  else none

inductive Reason where
  | invalidStart | invalidContinuation | unexpectedEnd
  deriving DecidableEq, Repr

def Reason.message : Reason → String
  | .invalidStart => "invalid start byte"
  | .invalidContinuation => "invalid continuation byte"
  | .unexpectedEnd => "unexpected end of data"

/-- The broken sequence: its first byte, where it starts, and how many of its bytes are good; the
byte that cannot start a sequence counts as one. -/
structure Fault where
  reason : Reason
  first : Nat
  position : Nat
  length : Nat
  deriving DecidableEq, Repr

/-- A single byte is named, and several are given by their positions. -/
def Fault.message (fault : Fault) : String :=
  let place :=
    if fault.length = 1 then
      "byte 0x" ++ String.ofList (Text.hexDigits 2 fault.first) ++ " in position " ++
        toString fault.position
    else
      "bytes in position " ++ toString fault.position ++ "-" ++
        toString (fault.position + fault.length - 1)
  "'utf-8' codec can't decode " ++ place ++ ": " ++ fault.reason.message

/-- A sequence of which some bytes have been read: its first byte, where it starts, the bits so far
and what is still to come. -/
structure Pending where
  first : Nat
  position : Nat
  bits : Nat
  ranges : List (Nat × Nat)
  deriving DecidableEq, Repr

/-- The text of the bytes from a position on, after the pending sequence is complete. -/
def decodeFrom (position : Nat) : Option Pending → List UInt8 → Except Fault (List Char)
  | none, [] => .ok []
  | some p, [] => .error ⟨.unexpectedEnd, p.first, p.position, position - p.position⟩
  | none, b :: bytes =>
    match lead? b.toNat with
    | none => .error ⟨.invalidStart, b.toNat, position, 1⟩
    | some ⟨bits, []⟩ => (decodeFrom (position + 1) none bytes).map (Char.ofNat bits :: ·)
    | some ⟨bits, ranges⟩ =>
      decodeFrom (position + 1) (some ⟨b.toNat, position, bits, ranges⟩) bytes
  | some p, b :: bytes =>
    match p.ranges with
    | [] => .error ⟨.invalidContinuation, p.first, p.position, position - p.position⟩
    | (low, high) :: ranges =>
      if low ≤ b.toNat ∧ b.toNat ≤ high then
        let bits := p.bits * 64 + (b.toNat - 0x80)
        if ranges.isEmpty then (decodeFrom (position + 1) none bytes).map (Char.ofNat bits :: ·)
        else decodeFrom (position + 1) (some { p with bits, ranges }) bytes
      else .error ⟨.invalidContinuation, p.first, p.position, position - p.position⟩

/-- The text of a list of bytes. -/
def decode (bytes : List UInt8) : Except Fault (List Char) := decodeFrom 0 none bytes

end ScadText.Utf8
