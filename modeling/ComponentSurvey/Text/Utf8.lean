import ComponentSurvey.Text.Hex

/-!
# Reading UTF-8

The decoder takes one byte at a time. Between characters it is at rest; inside one it knows how many
bytes are missing and which range the next of them must be in, so that overlong forms, surrogates
and code points past the last are refused at the first byte that rules the text out.

* `Utf8.Fault` — where and why bytes are not UTF-8.
* `Utf8.decode` — the characters of some bytes, or the first fault.
* `Utf8.Fault.message` — the wording of a fault.
-/

namespace ComponentSurvey

namespace Utf8

/-- Why some bytes are not UTF-8. -/
inductive Reason where
  /-- No character starts with this byte. -/
  | startByte
  /-- The byte after these does not continue the character. -/
  | continuationByte
  /-- The bytes end inside a character. -/
  | endOfData
deriving DecidableEq, Repr

/-- The first bytes of a text that are not UTF-8. -/
structure Fault where
  /-- The first of them. -/
  byte : UInt8
  /-- The offset of the first of them. -/
  position : Nat
  /-- How many there are. -/
  count : Nat
  reason : Reason
deriving DecidableEq, Repr

/-- A character that has begun. -/
structure Unfinished where
  /-- Its first byte. -/
  byte : UInt8
  /-- How many of its bytes have been read. -/
  count : Nat
  /-- How many of its bytes are still to come after the next one. -/
  missing : Nat
  /-- The least value of the next byte. -/
  low : UInt8
  /-- The greatest value of the next byte. -/
  high : UInt8
  /-- The bits read so far. -/
  code : Nat
deriving DecidableEq, Repr

/-- What a byte at the start of a character tells. -/
inductive Start where
  /-- It is the whole character. -/
  | whole (c : Char)
  /-- More bytes follow. -/
  | begun (unfinished : Unfinished)
  /-- No character starts with it. -/
  | refused

/-- What a byte at the start of a character tells. -/
def start (byte : UInt8) : Start :=
  let code := byte.toNat
  if code < 0x80 then .whole (Char.ofNat code)
  else if code < 0xC2 then .refused
  else if code < 0xE0 then .begun ⟨byte, 1, 0, 0x80, 0xBF, code - 0xC0⟩
  else if code == 0xE0 then .begun ⟨byte, 1, 1, 0xA0, 0xBF, 0⟩
  else if code == 0xED then .begun ⟨byte, 1, 1, 0x80, 0x9F, code - 0xE0⟩
  else if code < 0xF0 then .begun ⟨byte, 1, 1, 0x80, 0xBF, code - 0xE0⟩
  else if code == 0xF0 then .begun ⟨byte, 1, 2, 0x90, 0xBF, 0⟩
  else if code < 0xF4 then .begun ⟨byte, 1, 2, 0x80, 0xBF, code - 0xF0⟩
  else if code == 0xF4 then .begun ⟨byte, 1, 2, 0x80, 0x8F, code - 0xF0⟩
  else .refused

/-- The fault of a character that breaks off before `position`. -/
def Unfinished.fault (unfinished : Unfinished) (position : Nat) (reason : Reason) : Fault :=
  ⟨unfinished.byte, position - unfinished.count, unfinished.count, reason⟩

/-- Reads bytes from an offset on, inside a character or between two. -/
def decodeFrom : Nat → Option Unfinished → List UInt8 → Except Fault (List Char)
  | _, none, [] => .ok []
  | position, some unfinished, [] => .error (unfinished.fault position .endOfData)
  | position, none, byte :: rest =>
    match start byte with
    | .whole c => (decodeFrom (position + 1) none rest).map (c :: ·)
    | .begun unfinished => decodeFrom (position + 1) (some unfinished) rest
    | .refused => .error ⟨byte, position, 1, .startByte⟩
  | position, some unfinished, byte :: rest =>
    if unfinished.low ≤ byte ∧ byte ≤ unfinished.high then
      let code := 64 * unfinished.code + (byte.toNat - 0x80)
      match unfinished.missing with
      | 0 => (decodeFrom (position + 1) none rest).map (Char.ofNat code :: ·)
      | missing + 1 =>
        decodeFrom (position + 1)
          (some ⟨unfinished.byte, unfinished.count + 1, missing, 0x80, 0xBF, code⟩) rest
    else
      .error (unfinished.fault position .continuationByte)

/-- The text that bytes encode, or the first fault. -/
def decode (bytes : List UInt8) : Except Fault String :=
  (decodeFrom 0 none bytes).map String.ofList

/-! ### Wording -/

/-- The wording of a reason. -/
def Reason.message : Reason → String
  | .startByte => "invalid start byte"
  | .continuationByte => "invalid continuation byte"
  | .endOfData => "unexpected end of data"

/-- The wording of a fault: a single byte is shown, several are given by their offsets. -/
def Fault.message (fault : Fault) : String :=
  let place :=
    if fault.count = 1 then
      s!"byte 0x{String.ofList (Text.hex 2 fault.byte.toNat)} in position {fault.position}"
    else
      s!"bytes in position {fault.position}-{fault.position + fault.count - 1}"
  s!"'utf-8' codec can't decode {place}: {fault.reason.message}"

end Utf8

end ComponentSurvey
