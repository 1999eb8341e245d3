/-!
# Reading bytes as text

Unquoting a tag value can produce any bytes, also bytes that are no UTF-8. Such a value is
shown with every byte that does not begin a well-formed encoded character replaced by U+FFFD,
one replacement per byte, and every well-formed sequence kept as its character.

A well-formed sequence is the shortest form of a scalar value: two bytes from C2, three bytes
from E0 (second byte A0 to BF), E1 to EC, ED (second byte 80 to 9F, which excludes the
surrogates), EE and EF, four bytes from F0 (second byte 90 to BF), F1 to F3 and F4 (second
byte 80 to 8F).
-/

set_option autoImplicit false

namespace EntityQuery.Text

/-- A continuation byte, `10xxxxxx`. -/
def isTrailByte (b : UInt8) : Bool := 0x80 ≤ b && b ≤ 0xBF

/-- The range allowed for the second byte after a given first byte. -/
def secondByteRange (b : UInt8) : UInt8 × UInt8 :=
  if b == 0xE0 then (0xA0, 0xBF)
  else if b == 0xED then (0x80, 0x9F)
  else if b == 0xF0 then (0x90, 0xBF)
  else if b == 0xF4 then (0x80, 0x8F)
  else (0x80, 0xBF)

/-- How many bytes a character that starts with this byte takes (zero for a byte that starts
none). -/
def sequenceLength (b : UInt8) : Nat :=
  if b < 0x80 then 1
  else if 0xC2 ≤ b && b ≤ 0xDF then 2
  else if 0xE0 ≤ b && b ≤ 0xEF then 3
  else if 0xF0 ≤ b && b ≤ 0xF4 then 4
  else 0

/-- The character encoded at the front of the bytes, with the number of bytes it takes
after the first. -/
def decodeFront (b : UInt8) (rest : List UInt8) : Char × Nat :=
  let low := fun (x : UInt8) => (x &&& 0x3F).toNat
  let inSecond := fun (x : UInt8) => (secondByteRange b).1 ≤ x && x ≤ (secondByteRange b).2
  match sequenceLength b, rest with
  | 1, _ => (Char.ofNat b.toNat, 0)
  | 2, b1 :: _ =>
    if inSecond b1 then (Char.ofNat ((b &&& 0x1F).toNat * 64 + low b1), 1) else ('�', 0)
  | 3, b1 :: b2 :: _ =>
    if inSecond b1 && isTrailByte b2 then
      (Char.ofNat ((b &&& 0x0F).toNat * 4096 + low b1 * 64 + low b2), 2)
    else ('�', 0)
  | 4, b1 :: b2 :: b3 :: _ =>
    if inSecond b1 && isTrailByte b2 && isTrailByte b3 then
      (Char.ofNat ((b &&& 0x07).toNat * 262144 + low b1 * 4096 + low b2 * 64 + low b3), 3)
    else ('�', 0)
  | _, _ => ('�', 0)

/-- Decodes bytes as UTF-8, one U+FFFD for every byte that starts no well-formed character. -/
def decodeLossy : List UInt8 → List Char
  | [] => []
  | b :: rest =>
    let front := decodeFront b rest
    front.1 :: decodeLossy (rest.drop front.2)
termination_by bytes => bytes.length
decreasing_by simp only [List.length_drop, List.length_cons]; omega

/-- The text that a byte string shows. -/
def ofBytesLossy (bytes : List UInt8) : String := String.ofList (decodeLossy bytes)

/-- The UTF-8 bytes of a text. -/
def utf8Bytes (cs : List Char) : List UInt8 := cs.flatMap String.utf8EncodeChar

end EntityQuery.Text
