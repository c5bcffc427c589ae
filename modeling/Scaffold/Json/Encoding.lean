import Scaffold.Text.CodePoint
import Scaffold.Text.Utf8

/-!
# Encodings of JSON

JSON in bytes is in UTF-8, UTF-16 or UTF-32. A byte-order mark tells which, or else the places of the
null bytes among the first four bytes: JSON begins with two ASCII characters, if it has two.
Surrogates are accepted as code points in every encoding.
-/

namespace Scaffold.Json

/-! ## Encodings -/

/-- An encoding with the order of the bytes of a unit. -/
inductive Encoding where
  | utf8
  | utf16 (littleEndian : Bool)
  | utf32 (littleEndian : Bool)
  deriving DecidableEq, Repr

namespace Encoding

/-- The name of an encoding. -/
def name : Encoding → String
  | utf8 => "utf-8"
  | utf16 littleEndian => if littleEndian then "utf-16-le" else "utf-16-be"
  | utf32 littleEndian => if littleEndian then "utf-32-le" else "utf-32-be"

/-- The byte-order marks. A longer one comes before one that it begins with. -/
def marks : List (List Nat × Encoding) := [
  ([0x00, 0x00, 0xFE, 0xFF], .utf32 false), ([0xFF, 0xFE, 0x00, 0x00], .utf32 true),
  ([0xFE, 0xFF], .utf16 false), ([0xFF, 0xFE], .utf16 true), ([0xEF, 0xBB, 0xBF], .utf8)]

/-- The encoding of bytes without a byte-order mark. -/
def ofNulls : List Nat → Encoding
  | [a, b] => if a == 0 then .utf16 false else if b == 0 then .utf16 true else .utf8
  | a :: b :: c :: d :: _ =>
    if a == 0 then (if b == 0 then .utf32 false else .utf16 false)
    else if b == 0 then (if c == 0 && d == 0 then .utf32 true else .utf16 true)
    else .utf8
  | _ => .utf8

/-- The encoding of bytes, and their byte-order mark. -/
def detect (bytes : List Nat) : Encoding × List Nat :=
  match marks.find? fun m => m.1.isPrefixOf bytes with
  | some (mark, encoding) => (encoding, mark)
  | none => (ofNulls bytes, [])

end Encoding

/-! ## Faults -/

/-- The first fault of bytes: the position and value of its first byte, the number of its bytes and
the reason. -/
structure EncodingFault where
  encoding : Encoding
  position : Nat
  byte : Nat
  size : Nat
  reason : String
  deriving DecidableEq, Repr

/-- The text of a fault. -/
def EncodingFault.message (f : EncodingFault) : String :=
  Utf8.faultMessage f.encoding.name f.position f.byte f.size f.reason

/-! ## Code points -/

/-- The surrogate that bytes in UTF-8 begin with. -/
def surrogate? : List Nat → Option Nat
  | a :: b :: c :: _ =>
    if a == 0xED && 0xA0 ≤ b && b ≤ 0xBF && Utf8.isContinuation c then
      some (0xD000 + (b % 64) * 64 + c % 64)
    else none
  | _ => none

/-- The code points of bytes in UTF-8 that start at a position. -/
def utf8From (position : Nat) : List Nat → Except EncodingFault (List Nat)
  | [] => .ok []
  | lead :: rest =>
    match surrogate? (lead :: rest) with
    | some n => (utf8From (position + 3) (rest.drop 2)).map (n :: ·)
    | none =>
      match Utf8.start lead rest with
      | .char c extra => (utf8From (position + 1 + extra) (rest.drop extra)).map (c.toNat :: ·)
      | .fault reason extra => .error ⟨.utf8, position, lead, extra + 1, reason.message⟩
termination_by bytes => bytes.length
decreasing_by all_goals simp only [List.length_drop, List.length_cons]; omega

/-- The number that the bytes of a unit stand for, the highest byte first unless they are in the
other order. -/
def unitValue (littleEndian : Bool) (bytes : List Nat) : Nat :=
  (if littleEndian then bytes.reverse else bytes).foldl (fun n b => n * 256 + b) 0

/-- The units of two bytes that start at a position. -/
def units16From (littleEndian : Bool) (position : Nat) : List Nat → Except EncodingFault (List Nat)
  | [] => .ok []
  | [a] => .error ⟨.utf16 littleEndian, position, a, 1, "truncated data"⟩
  | a :: b :: rest =>
    (units16From littleEndian (position + 2) rest).map (unitValue littleEndian [a, b] :: ·)

/-- The units of four bytes that start at a position. A unit is a code point. -/
def units32From (littleEndian : Bool) (position : Nat) : List Nat → Except EncodingFault (List Nat)
  | a :: b :: c :: d :: rest =>
    let n := unitValue littleEndian [a, b, c, d]
    if 0x10FFFF < n then
      .error ⟨.utf32 littleEndian, position, a, 4, "code point not in range(0x110000)"⟩
    else (units32From littleEndian (position + 4) rest).map (n :: ·)
  | [] => .ok []
  | a :: rest => .error ⟨.utf32 littleEndian, position, a, rest.length + 1, "truncated data"⟩

/-- The code points of bytes in an encoding. A byte-order mark counts for the positions, except in
UTF-8. -/
def Encoding.codePoints (e : Encoding) (mark bytes : List Nat) : Except EncodingFault (List Nat) :=
  match e with
  | .utf8 => utf8From 0 bytes
  | .utf16 littleEndian =>
    (units16From littleEndian mark.length bytes).map Text.joinSurrogates
  | .utf32 littleEndian => units32From littleEndian mark.length bytes

/-- The code points of JSON in bytes. -/
def decodeBytes (b : ByteArray) : Except EncodingFault (List Nat) :=
  let bytes := b.data.toList.map UInt8.toNat
  let (encoding, mark) := Encoding.detect bytes
  encoding.codePoints mark (bytes.drop mark.length)

end Scaffold.Json
