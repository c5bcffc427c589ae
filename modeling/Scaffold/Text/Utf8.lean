import Scaffold.Value.Display

/-!
# UTF-8

Decoding of bytes, strictly with the first fault, or leniently with a replacement character for
each fault. A faulty sequence ends before the first byte that cannot continue it.
-/

namespace Scaffold.Utf8

/-! ## One character -/

/-- What is wrong with a sequence of bytes. -/
inductive Reason where
  | startByte
  | continuationByte
  | truncated
  deriving DecidableEq, Repr

/-- The text of a reason. -/
def Reason.message : Reason → String
  | .startByte => "invalid start byte"
  | .continuationByte => "invalid continuation byte"
  | .truncated => "unexpected end of data"

/-- What a lead byte and the bytes after it begin with: a character that takes `extra` more bytes, or
a faulty sequence that takes `extra` more bytes. -/
inductive Start where
  | char (c : Char) (extra : Nat)
  | fault (reason : Reason) (extra : Nat)

/-- A byte inside a sequence. -/
def isContinuation (b : Nat) : Bool := 0x80 ≤ b && b ≤ 0xBF

/-- A second byte that makes an overlong form, a surrogate or a code point out of range. -/
def isForbidden (lead second : Nat) : Bool :=
  (lead == 0xE0 && second < 0xA0) || (lead == 0xED && 0xA0 ≤ second)
    || (lead == 0xF0 && second < 0x90) || (lead == 0xF4 && 0x90 ≤ second)

/-- Reads `missing` more bytes of a sequence whose bits so far are `bits`; `extra` bytes have been
read after the lead byte. -/
def continued (lead bits extra : Nat) : Nat → List Nat → Start
  | 0, _ => .char (Char.ofNat bits) extra
  | _ + 1, [] => .fault .truncated extra
  | missing + 1, b :: rest =>
    if !isContinuation b || (extra == 0 && isForbidden lead b) then .fault .continuationByte extra
    else continued lead (bits * 64 + b % 64) (extra + 1) missing rest

/-- Reads the sequence of a lead byte. -/
def start (lead : Nat) (rest : List Nat) : Start :=
  if lead < 0x80 then .char (Char.ofNat lead) 0
  else if lead < 0xC2 then .fault .startByte 0
  else if lead < 0xE0 then continued lead (lead % 32) 0 1 rest
  else if lead < 0xF0 then continued lead (lead % 16) 0 2 rest
  else if lead < 0xF5 then continued lead (lead % 8) 0 3 rest
  else .fault .startByte 0

/-! ## Whole texts -/

/-- The first fault of a text: the position and value of its first byte, the number of its bytes and
the reason. -/
structure Fault where
  position : Nat
  byte : Nat
  size : Nat
  reason : Reason
  deriving DecidableEq, Repr

/-- The text of a fault of `size` bytes in an encoding, the first of which is `byte`. -/
def faultMessage (encoding : String) (position byte size : Nat) (reason : String) : String :=
  let place :=
    if size == 1 then "byte 0x" ++ Quoted.hex 2 byte ++ " in position " ++ toString position
    else "bytes in position " ++ toString position ++ "-" ++ toString (position + size - 1)
  "'" ++ encoding ++ "' codec can't decode " ++ place ++ ": " ++ reason

/-- The text of a fault. -/
def Fault.message (f : Fault) : String :=
  faultMessage "utf-8" f.position f.byte f.size f.reason.message

/-- The characters of bytes that start at a position. -/
def charsFrom (position : Nat) : List Nat → Except Fault (List Char)
  | [] => .ok []
  | lead :: rest =>
    match start lead rest with
    | .char c extra =>
      match charsFrom (position + 1 + extra) (rest.drop extra) with
      | .ok cs => .ok (c :: cs)
      | .error f => .error f
    | .fault reason extra => .error ⟨position, lead, extra + 1, reason⟩
termination_by bytes => bytes.length
decreasing_by simp only [List.length_drop, List.length_cons]; omega

/-- The characters of bytes, with a replacement character for each faulty sequence. -/
def charsReplacing : List Nat → List Char
  | [] => []
  | lead :: rest =>
    match start lead rest with
    | .char c extra => c :: charsReplacing (rest.drop extra)
    | .fault _ extra => '\uFFFD' :: charsReplacing (rest.drop extra)
termination_by bytes => bytes.length
decreasing_by all_goals simp only [List.length_drop, List.length_cons]; omega

/-- The text that bytes stand for, or their first fault. -/
def decode (b : ByteArray) : Except Fault String :=
  (charsFrom 0 (b.data.toList.map UInt8.toNat)).map String.ofList

/-- The text that bytes stand for, with a replacement character for each faulty sequence. -/
def decodeReplacing (b : ByteArray) : String :=
  String.ofList (charsReplacing (b.data.toList.map UInt8.toNat))

/-- The bytes of a text. -/
def encode (s : String) : ByteArray := s.toUTF8

end Scaffold.Utf8
