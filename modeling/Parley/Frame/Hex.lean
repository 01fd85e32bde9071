/-
# Bytes for people

Bytes in base sixteen, two digits a byte.
-/

import Parley.Frame.Word
import Parley.Json.Printer
import Parley.Json.Reader

namespace Parley.Frame

/-- The digits of some bytes. -/
def hexText (bytes : Bytes) : String :=
  String.ofList (bytes.flatMap fun b =>
    [Json.hexDigit (b.toNat / 16), Json.hexDigit (b.toNat % 16)])

/-- The bytes with these digits. -/
def ofHexDigits? : List Char → Option Bytes
  | [] => some []
  | a :: b :: rest => do
      let high ← Json.hexValue? a
      let low ← Json.hexValue? b
      return (16 * high + low).toUInt8 :: (← ofHexDigits? rest)
  | _ => none

/-- The bytes that a text spells. -/
def ofHexText? (text : String) : Option Bytes :=
  ofHexDigits? text.toList

end Parley.Frame
