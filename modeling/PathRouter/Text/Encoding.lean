import PathRouter.Text.Hexadecimal
import PathRouter.Text.Units

/-!
# Encodings of texts

A text is stored as bytes: one to four for each character, or one or two units
of two bytes, or a single unit of four.  Bytes that encode no text are reported
with their place and with the reason.

A reader may let surrogates pass, which no character has as its code.  They are
read as units, so that a pair of them still makes a character.

## Main definitions

* `Encoding` and `Encoding.decode`: the encodings and what bytes stand for.
* `DecodingFault` and `DecodingFault.message`: why bytes encode no text.
-/

namespace PathRouter
namespace Text

/-- The order of the bytes of a unit. -/
inductive ByteOrder where
  /-- The least significant byte comes first. -/
  | little
  /-- The most significant byte comes first. -/
  | big
deriving DecidableEq, Repr

/-- An encoding. -/
inductive Encoding where
  /-- One to four bytes for a character. -/
  | utf8
  /-- Units of two bytes. -/
  | utf16 (order : ByteOrder)
  /-- Units of four bytes. -/
  | utf32 (order : ByteOrder)
deriving DecidableEq, Repr

/-- The name of an encoding. -/
def Encoding.name : Encoding → String
  | utf8 => "utf-8"
  | utf16 .little => "utf-16-le"
  | utf16 .big => "utf-16-be"
  | utf32 .little => "utf-32-le"
  | utf32 .big => "utf-32-be"

/-- Why bytes encode no text. -/
inductive DecodingCause where
  /-- No character starts with the byte. -/
  | invalidStart
  /-- A byte does not go on with the character that has begun. -/
  | invalidContinuation
  /-- The bytes end inside a character. -/
  | unexpectedEnd
  /-- The bytes end inside a unit. -/
  | truncated
  /-- The unit is beyond the last code point. -/
  | beyondRange
deriving DecidableEq, Repr

/-- The wording of each cause. -/
def DecodingCause.message : DecodingCause → String
  | invalidStart => "invalid start byte"
  | invalidContinuation => "invalid continuation byte"
  | unexpectedEnd => "unexpected end of data"
  | truncated => "truncated data"
  | beyondRange => "code point not in range(0x110000)"

/-- The first bytes that encode nothing. -/
structure DecodingFault where
  /-- The encoding. -/
  encoding : Encoding
  /-- The number of bytes in front of them. -/
  position : Nat
  /-- The first of them. -/
  first : UInt8
  /-- The number of the others. -/
  others : Nat
  /-- What is wrong with them. -/
  cause : DecodingCause
deriving DecidableEq, Repr

/-- The wording of a fault. -/
def DecodingFault.message (fault : DecodingFault) : String :=
  let what :=
    if fault.others = 0 then
      "byte 0x" ++ String.ofList (fixedHex 2 fault.first.toNat) ++
        " in position " ++ toString fault.position
    else
      "bytes in position " ++ toString fault.position ++ "-" ++
        toString (fault.position + fault.others)
  "'" ++ fault.encoding.name ++ "' codec can't decode " ++ what ++ ": " ++
    fault.cause.message

namespace Utf8

/-- The ranges of the bytes that follow the first byte of a character, or
`none` if no character starts with the byte. -/
def followers? (first : Nat) : Option (List (Nat × Nat)) :=
  let tail := (0x80, 0xbf)
  if first < 0x80 then some []
  else if first < 0xc2 then none
  else if first < 0xe0 then some [tail]
  else if first = 0xe0 then some [(0xa0, 0xbf), tail]
  else if first = 0xed then some [(0x80, 0x9f), tail]
  else if first < 0xf0 then some [tail, tail]
  else if first = 0xf0 then some [(0x90, 0xbf), tail, tail]
  else if first < 0xf4 then some [tail, tail, tail]
  else if first = 0xf4 then some [(0x80, 0x8f), tail, tail]
  else none

/-- How many of the following bytes are as they ought to be. -/
def countFollowing : List (Nat × Nat) → List UInt8 → Nat
  | (low, high) :: ranges, byte :: rest =>
      if low ≤ byte.toNat ∧ byte.toNat ≤ high then
        countFollowing ranges rest + 1
      else 0
  | _, _ => 0

/-- The code of a character from its first byte and the following ones. -/
def code (first : Nat) (following : List UInt8) : Nat :=
  let mark :=
    match following.length with
    | 0 => 0
    | 1 => 0xc0
    | 2 => 0xe0
    | _ => 0xf0
  following.foldl (fun value byte => 0x40 * value + (byte.toNat - 0x80))
    (first - mark)

/-- The surrogate at the front of some bytes, if there is one. -/
def surrogate? : List UInt8 → Option Nat
  | first :: second :: third :: _ =>
      if first.toNat = 0xed ∧ 0xa0 ≤ second.toNat ∧ second.toNat ≤ 0xbf ∧
          0x80 ≤ third.toNat ∧ third.toNat ≤ 0xbf then
        some (code first.toNat [second, third])
      else none
  | _ => none

/-- The codes that bytes encode, of which the first stands at `position`. -/
def codes (surrogates : Bool) (position : Nat) :
    List UInt8 → Except DecodingFault (List Nat)
  | [] => .ok []
  | first :: rest =>
      let fault others cause :=
        .error ⟨.utf8, position, first, others, cause⟩
      match if surrogates then surrogate? (first :: rest) else none with
      | some unit => (unit :: ·) <$> codes surrogates (position + 3)
          (rest.drop 2)
      | none =>
          match followers? first.toNat with
          | none => fault 0 .invalidStart
          | some ranges =>
              let count := countFollowing ranges rest
              if count = ranges.length then
                (code first.toNat (rest.take count) :: ·) <$>
                  codes surrogates (position + 1 + count) (rest.drop count)
              else if count = rest.length then fault count .unexpectedEnd
              else fault count .invalidContinuation
termination_by bytes => bytes.length
decreasing_by
  all_goals
    simp only [List.length_drop, List.length_cons]
    omega

end Utf8

/-- The value of a unit. -/
def unitValue (order : ByteOrder) (bytes : List UInt8) : Nat :=
  let significant :=
    match order with
    | .little => bytes.reverse
    | .big => bytes
  significant.foldl (fun value byte => 0x100 * value + byte.toNat) 0

/-- The units of two bytes each. -/
def pairUnits (order : ByteOrder) (position : Nat) :
    List UInt8 → Except DecodingFault (List Nat)
  | [] => .ok []
  | [byte] => .error ⟨.utf16 order, position, byte, 0, .truncated⟩
  | a :: b :: rest =>
      (unitValue order [a, b] :: ·) <$> pairUnits order (position + 2) rest

/-- The units of four bytes each. -/
def quadUnits (order : ByteOrder) (position : Nat) :
    List UInt8 → Except DecodingFault (List Nat)
  | [] => .ok []
  | a :: b :: c :: d :: rest =>
      let value := unitValue order [a, b, c, d]
      if value < 0x110000 then
        (value :: ·) <$> quadUnits order (position + 4) rest
      else .error ⟨.utf32 order, position, a, 3, .beyondRange⟩
  | byte :: rest =>
      .error ⟨.utf32 order, position, byte, rest.length, .truncated⟩

namespace Encoding

/-- The codes or units that bytes encode. -/
def codes (surrogates : Bool) (position : Nat) (encoding : Encoding)
    (bytes : List UInt8) : Except DecodingFault (List Nat) :=
  match encoding with
  | utf8 => Utf8.codes surrogates position bytes
  | utf16 order => pairUnits order position bytes
  | utf32 order => quadUnits order position bytes

/-- The text that bytes encode, of which the first stands at `position`. -/
def decode (surrogates : Bool) (position : Nat) (encoding : Encoding)
    (bytes : List UInt8) : Except DecodingFault (List Char) :=
  ofUnits <$> encoding.codes surrogates position bytes

end Encoding
end Text
end PathRouter
