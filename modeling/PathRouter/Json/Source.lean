import PathRouter.Text.Encoding

/-!
# Documents as bytes

A document does not tell its encoding.  A byte order mark at its front gives
it away; without one, its first characters are taken to be of the lowest code
points, so that the places of the null bytes tell the width of the units and
their order.
-/

namespace PathRouter
namespace Json

open Text (ByteOrder Encoding DecodingFault)

/-- An encoding, the number of bytes of the mark at the front, and whether they
count in places. -/
structure Detection where
  /-- The encoding of the document. -/
  encoding : Encoding
  /-- The number of bytes of the mark. -/
  markWidth : Nat := 0
  /-- Whether places count the bytes of the mark. -/
  countsMark : Bool := true
deriving DecidableEq, Repr

/-- The encoding that a mark tells, if there is one. -/
def detectMark? : List UInt8 → Option Detection
  | 0x00 :: 0x00 :: 0xfe :: 0xff :: _ => some ⟨.utf32 .big, 4, true⟩
  | 0xff :: 0xfe :: 0x00 :: 0x00 :: _ => some ⟨.utf32 .little, 4, true⟩
  | 0xfe :: 0xff :: _ => some ⟨.utf16 .big, 2, true⟩
  | 0xff :: 0xfe :: _ => some ⟨.utf16 .little, 2, true⟩
  | 0xef :: 0xbb :: 0xbf :: _ => some ⟨.utf8, 3, false⟩
  | _ => none

/-- The encoding that the null bytes among the first ones tell. -/
def detectNulls : List UInt8 → Encoding
  | a :: b :: c :: d :: _ =>
      if a = 0 then if b = 0 then .utf32 .big else .utf16 .big
      else if b = 0 then
        if c = 0 ∧ d = 0 then .utf32 .little else .utf16 .little
      else .utf8
  | [a, b] =>
      if a = 0 then .utf16 .big
      else if b = 0 then .utf16 .little
      else .utf8
  | _ => .utf8

/-- The encoding of a document. -/
def detect (bytes : List UInt8) : Detection :=
  (detectMark? bytes).getD ⟨detectNulls bytes, 0, true⟩

/-- The text of a document.  Surrogates pass. -/
def decode (bytes : List UInt8) : Except DecodingFault (List Char) :=
  let detection := detect bytes
  detection.encoding.decode true
    (if detection.countsMark then detection.markWidth else 0)
    (bytes.drop detection.markWidth)

end Json
end PathRouter
