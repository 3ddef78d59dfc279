import RoutePattern.Text.Hex

/-!
# UTF-8

`Utf8.encode` gives the bytes of a text. `Utf8.decode` reads bytes as a text or finds the first
faulty ones, and `Utf8.decodeLenient` puts a replacement character in the place of each faulty run.
A faulty run is the longest start of a character that the next byte does not continue.
-/

namespace RoutePattern.Utf8

/-- The bytes of a character. -/
def encodeChar (c : Char) : List UInt8 :=
  String.utf8EncodeChar c

/-- The bytes of a text. -/
def encode (text : List Char) : List UInt8 :=
  text.flatMap encodeChar

/-- Why bytes are no text. -/
inductive Reason where
  | startByte
  | continuationByte
  | endOfData
deriving DecidableEq, Repr

/-- The description of a reason. -/
def Reason.message : Reason → String
  | startByte => "invalid start byte"
  | continuationByte => "invalid continuation byte"
  | endOfData => "unexpected end of data"

/-- What a byte can begin: the number of further bytes, the bounds on the first of them, and the
bits that the byte itself gives. -/
structure Lead where
  further : Nat
  low : Nat
  high : Nat
  bits : Nat

/-- What a byte begins, if it begins a character of more than one byte. -/
def lead? (byte : Nat) : Option Lead :=
  if 0xC2 ≤ byte && byte ≤ 0xDF then some ⟨1, 0x80, 0xBF, byte - 0xC0⟩
  else if byte = 0xE0 then some ⟨2, 0xA0, 0xBF, 0⟩
  else if byte = 0xED then some ⟨2, 0x80, 0x9F, 0xD⟩
  else if 0xE1 ≤ byte && byte ≤ 0xEF then some ⟨2, 0x80, 0xBF, byte - 0xE0⟩
  else if byte = 0xF0 then some ⟨3, 0x90, 0xBF, 0⟩
  else if byte = 0xF4 then some ⟨3, 0x80, 0x8F, 4⟩
  else if 0xF1 ≤ byte && byte ≤ 0xF3 then some ⟨3, 0x80, 0xBF, byte - 0xF0⟩
  else none

/-- The code point of further bytes, or the reason they are none and how many of them are sound. -/
def further (count low high bits sound : Nat) : List UInt8 → Except (Reason × Nat) Nat
  | [] => if count = 0 then .ok bits else .error (.endOfData, sound)
  | byte :: rest =>
      if count = 0 then .ok bits
      else if low ≤ byte.toNat && byte.toNat ≤ high then
        further (count - 1) 0x80 0xBF (64 * bits + (byte.toNat - 0x80)) (sound + 1) rest
      else .error (.continuationByte, sound)

/-- The first character of some bytes and the number of bytes after its first, or the reason there
is none and the number of sound bytes after the first. -/
def first (byte : UInt8) (rest : List UInt8) : Except (Reason × Nat) (Char × Nat) :=
  if byte.toNat < 0x80 then .ok (Char.ofNat byte.toNat, 0)
  else
    match lead? byte.toNat with
    | none => .error (.startByte, 0)
    | some lead => do
        let code ← further lead.further lead.low lead.high lead.bits 0 rest
        return (Char.ofNat code, lead.further)

/-- Bytes that are no text: the first of them, their offset, their number, and the reason. -/
structure Fault where
  byte : UInt8
  start : Nat
  count : Nat
  reason : Reason
deriving DecidableEq, Repr

/-- The description of faulty bytes. -/
def Fault.message (fault : Fault) : String :=
  let place :=
    if fault.count = 1 then
      "byte 0x" ++ String.ofList (hexDigits 2 fault.byte.toNat)
        ++ " in position " ++ toString fault.start
    else
      "bytes in position " ++ toString fault.start ++ "-"
        ++ toString (fault.start + fault.count - 1)
  "'utf-8' codec can't decode " ++ place ++ ": " ++ fault.reason.message

/-- Read bytes, the first of which has the given offset, as a text. -/
def decodeFrom (offset : Nat) : List UInt8 → Except Fault (List Char)
  | [] => .ok []
  | byte :: rest =>
      match first byte rest with
      | .ok (c, extra) => do return c :: (← decodeFrom (offset + 1 + extra) (rest.drop extra))
      | .error (reason, sound) => .error ⟨byte, offset, sound + 1, reason⟩
termination_by bytes => bytes.length
decreasing_by simp only [List.length_drop, List.length_cons]; omega

/-- Read bytes as a text. -/
def decode (bytes : List UInt8) : Except Fault (List Char) :=
  decodeFrom 0 bytes

/-- Read bytes as a text, with a replacement character in the place of each faulty run. -/
def decodeLenient : List UInt8 → List Char
  | [] => []
  | byte :: rest =>
      match first byte rest with
      | .ok (c, extra) => c :: decodeLenient (rest.drop extra)
      | .error (_, sound) => '\uFFFD' :: decodeLenient (rest.drop sound)
termination_by bytes => bytes.length
decreasing_by all_goals simp only [List.length_drop, List.length_cons]; omega

end RoutePattern.Utf8
