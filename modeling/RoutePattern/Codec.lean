import RoutePattern.Number.Integer
import RoutePattern.Text.Case
import RoutePattern.Text.Hex
import RoutePattern.Text.Utf8
import RoutePattern.Value

/-!
# Encodings and decodings

Named ways to turn the text of a value into the text of a path, and back. `Encoding.apply` encodes;
`Decoding.apply` decodes and may fail on a text that is no integer.
-/

namespace RoutePattern

/-- The ways to write the text of a value into a path. -/
inductive Encoding where
  | identity
  | percent
  | upper
  | wrap
  | empty
  | plus
deriving DecidableEq, Repr

/-- Whether a byte stands for itself in percent-encoded text. -/
def isUnreserved (byte : UInt8) : Bool :=
  let n := byte.toNat
  n < 128 && ((Char.ofNat n).isAlphanum || ['_', '.', '-', '~'].contains (Char.ofNat n))

/-- The upper-case form of a character within ASCII. -/
def upperChar (c : Char) : Char :=
  Char.ofNat (asciiUpper c.toNat)

/-- A byte in percent-encoded text. -/
def percentByte (byte : UInt8) : List Char :=
  if isUnreserved byte then [Char.ofNat byte.toNat]
  else '%' :: (hexDigits 2 byte.toNat).map upperChar

/-- Encode a text. -/
def Encoding.apply (encoding : Encoding) (text : String) : String :=
  match encoding with
  | identity => text
  | percent => String.ofList ((Utf8.encode text.toList).flatMap percentByte)
  | upper => String.ofList (text.toList.map upperChar)
  | wrap => "<" ++ text ++ ">"
  | empty => ""
  | plus => String.ofList (text.toList.map fun c => if c = ' ' then '+' else c)

/-- The ways to read the text of a path as a value. -/
inductive Decoding where
  | identity
  | unquote
  | int
  | len
  | upper
deriving DecidableEq, Repr

/-- The bytes of a text in which each percent sign with two hexadecimal digits stands for a byte.
A percent sign without them stands for itself. -/
def unquoteBytes : List Char → List UInt8
  | [] => []
  | '%' :: high :: low :: rest =>
      if isHexDigit high && isHexDigit low then
        UInt8.ofNat (16 * hexValue high + hexValue low) :: unquoteBytes rest
      else 37 :: unquoteBytes (high :: low :: rest)
  | c :: rest => Utf8.encodeChar c ++ unquoteBytes rest

/-- Undo percent-encoding. Each run of ASCII characters is read on its own, so the bytes it stands
for join no character around it. -/
def unquoteText (text : List Char) : List Char :=
  let isAscii (c : Char) : Bool := c.toNat < 128
  (text.splitBy fun a b => isAscii a == isAscii b).flatMap fun run =>
    if run.all isAscii then Utf8.decodeLenient (unquoteBytes run) else run

/-- Decode a text. -/
def Decoding.apply (decoding : Decoding) (text : String) : Except IntegerFault Value :=
  match decoding with
  | identity => .ok (.text text)
  | unquote => .ok (.text (String.ofList (unquoteText text.toList)))
  | int => (readInteger text.toList).map .int
  | len => .ok (.int text.length)
  | upper => .ok (.text (String.ofList (text.toList.map upperChar)))

end RoutePattern
