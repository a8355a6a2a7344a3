import Mathlib.Data.List.Forall2
import PathRouter.Result
import PathRouter.Text.Encoding

/-!
# Reading encoded texts

A text that is written with one to four bytes for a character is read back,
whether surrogates may pass or not: no character has the code of one.

## Main definitions

* `utf8`: the bytes of a text.

## Main statements

* `Encoding.decode_utf8`: the bytes of a text are read as the text.
-/

namespace PathRouter
namespace Text

/-- The bytes of a text, one to four for each character. -/
def utf8 (text : List Char) : List UInt8 := text.flatMap String.utf8EncodeChar

namespace Utf8

variable
  {ranges : List (Nat × Nat)}
  {following : List UInt8}
  {first : UInt8}

/-- Each byte lies in its range. -/
abbrev Conform (ranges : List (Nat × Nat)) (following : List UInt8) : Prop :=
  List.Forall₂ (fun range byte => range.1 ≤ byte.toNat ∧ byte.toNat ≤ range.2)
    ranges following

theorem countFollowing_append
    (conform : Conform ranges following)
    (rest : List UInt8) :
    countFollowing ranges (following ++ rest) = ranges.length := by
  induction conform with
  | nil => rfl
  | cons inRange _ inductionHypothesis =>
      rw [List.cons_append, countFollowing, if_pos inRange,
        inductionHypothesis, List.length_cons]

/-- The second byte of a character is not the one of a surrogate. -/
theorem surrogate?_append
    (starts : followers? first.toNat = some ranges)
    (conform : Conform ranges following)
    (rest : List UInt8) :
    surrogate? (first :: (following ++ rest)) = none := by
  unfold surrogate?
  split
  · next lead second third behind equal =>
      refine if_neg ?_
      rintro ⟨isLead, low, _⟩
      obtain ⟨rfl, tail⟩ := List.cons.inj equal
      rw [isLead] at starts
      cases starts
      cases conform with
      | @cons _ byte _ _ inRange conform =>
          have same : byte = second := (List.cons.inj tail).1
          rw [same] at inRange
          dsimp only at inRange
          omega
  · rfl

/-- A character is read from bytes that conform to its first one. -/
theorem codes_append
    (surrogates : Bool)
    (position : Nat)
    (starts : followers? first.toNat = some ranges)
    (conform : Conform ranges following)
    (rest : List UInt8) :
    codes surrogates position (first :: (following ++ rest)) =
      (code first.toNat following :: ·) <$>
        codes surrogates (position + 1 + following.length) rest := by
  have width : ranges.length = following.length := conform.length_eq
  have plain : (if surrogates then
      surrogate? (first :: (following ++ rest)) else none) = none := by
    rw [surrogate?_append starts conform rest, ite_self]
  rw [codes]
  dsimp only
  rw [plain, starts]
  dsimp only
  rw [countFollowing_append conform, if_pos rfl, width, List.take_left,
    List.drop_left]

/-! ## First bytes -/

theorem followers?_one {first : Nat} (bound : first < 0x80) :
    followers? first = some [] := if_pos bound

theorem followers?_two {first : Nat} (low : 0xc2 ≤ first)
    (high : first < 0xe0) :
    followers? first = some [(0x80, 0xbf)] := by
  unfold followers?
  rw [if_neg (by omega), if_neg (by omega), if_pos high]

theorem followers?_three {first : Nat} (low : 0xe0 ≤ first)
    (high : first < 0xf0) :
    followers? first =
      some [if first = 0xe0 then (0xa0, 0xbf)
        else if first = 0xed then (0x80, 0x9f) else (0x80, 0xbf),
        (0x80, 0xbf)] := by
  unfold followers?
  rw [if_neg (by omega), if_neg (by omega), if_neg (by omega)]
  by_cases isFirst : first = 0xe0
  · rw [if_pos isFirst, if_pos isFirst]
  · rw [if_neg isFirst, if_neg isFirst]
    by_cases isLead : first = 0xed
    · rw [if_pos isLead, if_pos isLead]
    · rw [if_neg isLead, if_neg isLead, if_pos high]

theorem followers?_four {first : Nat} (low : 0xf0 ≤ first)
    (high : first < 0xf5) :
    followers? first =
      some [if first = 0xf0 then (0x90, 0xbf)
        else if first = 0xf4 then (0x80, 0x8f) else (0x80, 0xbf),
        (0x80, 0xbf), (0x80, 0xbf)] := by
  unfold followers?
  dsimp only
  rw [if_neg (by omega), if_neg (by omega), if_neg (by omega),
    if_neg (by omega), if_neg (by omega), if_neg (by omega)]
  by_cases isFirst : first = 0xf0
  · rw [if_pos isFirst, if_pos isFirst]
  · rw [if_neg isFirst, if_neg isFirst]
    by_cases isLast : first = 0xf4
    · rw [if_neg (by omega), if_pos isLast, if_pos isLast]
    · rw [if_pos (by omega), if_neg isLast]

/-! ## Characters -/

/-- Bytes that stand for a code: behind the first one there are as many as it
tells, in the ranges that it tells. -/
inductive Encodes (value : Nat) : List UInt8 → Prop
  | intro
      {ranges : List (Nat × Nat)}
      {following : List UInt8}
      {first : UInt8}
      (starts : followers? first.toNat = some ranges)
      (conform : Conform ranges following)
      (isValue : code first.toNat following = value) :
      Encodes value (first :: following)

variable {v : Nat}

/-- Bytes that stand for a code are read as the code, whatever follows. -/
theorem Encodes.exists_codes
    {bytes : List UInt8}
    (encodes : Encodes v bytes)
    (surrogates : Bool)
    (position : Nat)
    (rest : List UInt8) :
    ∃ next, codes surrogates position (bytes ++ rest) =
      (v :: ·) <$> codes surrogates next rest := by
  cases encodes with
  | intro starts conform isValue =>
      rw [List.cons_append,
        codes_append surrogates position starts conform rest, isValue]
      exact ⟨_, rfl⟩

theorem toNat_ofNat {n : Nat} (bound : n < 0x100) :
    (UInt8.ofNat n).toNat = n :=
  UInt8.toNat_ofNat_of_lt' bound

theorem encodes_one (bound : v < 0x80) : Encodes v [UInt8.ofNat v] := by
  have first := @toNat_ofNat v (by omega)
  have starts := followers?_one bound
  rw [← first] at starts
  exact .intro starts .nil first

theorem encodes_two
    (low : 0x80 ≤ v)
    (high : v < 0x800) :
    Encodes v
      [UInt8.ofNat (v / 64 % 32 + 192), UInt8.ofNat (v % 64 + 128)] := by
  have first := @toNat_ofNat (v / 64 % 32 + 192) (by omega)
  have second := @toNat_ofNat (v % 64 + 128) (by omega)
  have starts := @followers?_two (v / 64 % 32 + 192) (by omega) (by omega)
  rw [← first] at starts
  refine .intro starts (.cons ?_ .nil) ?_
  · rw [second]
    omega
  · rw [first]
    change 64 * (v / 64 % 32 + 192 - 0xc0) + (_ - 0x80) = v
    rw [second]
    omega

theorem encodes_three
    (low : 0x800 ≤ v)
    (high : v < 0x10000)
    (noSurrogate : v < 0xd800 ∨ 0xe000 ≤ v) :
    Encodes v
      [UInt8.ofNat (v / 4096 % 16 + 224), UInt8.ofNat (v / 64 % 64 + 128),
        UInt8.ofNat (v % 64 + 128)] := by
  have first := @toNat_ofNat (v / 4096 % 16 + 224) (by omega)
  have second := @toNat_ofNat (v / 64 % 64 + 128) (by omega)
  have third := @toNat_ofNat (v % 64 + 128) (by omega)
  have starts := @followers?_three (v / 4096 % 16 + 224) (by omega) (by omega)
  rw [← first] at starts
  refine .intro starts (.cons ?_ (.cons ?_ .nil)) ?_
  · rw [first, second]
    split
    · omega
    · split <;> omega
  · rw [third]
    omega
  · rw [first]
    change 64 * (64 * (v / 4096 % 16 + 224 - 0xe0) + (_ - 0x80)) +
      (_ - 0x80) = v
    rw [second, third]
    omega

theorem encodes_four
    (low : 0x10000 ≤ v)
    (high : v < 0x110000) :
    Encodes v
      [UInt8.ofNat (v / 262144 % 8 + 240), UInt8.ofNat (v / 4096 % 64 + 128),
        UInt8.ofNat (v / 64 % 64 + 128), UInt8.ofNat (v % 64 + 128)] := by
  have first := @toNat_ofNat (v / 262144 % 8 + 240) (by omega)
  have second := @toNat_ofNat (v / 4096 % 64 + 128) (by omega)
  have third := @toNat_ofNat (v / 64 % 64 + 128) (by omega)
  have fourth := @toNat_ofNat (v % 64 + 128) (by omega)
  have starts := @followers?_four (v / 262144 % 8 + 240) (by omega) (by omega)
  rw [← first] at starts
  refine .intro starts (.cons ?_ (.cons ?_ (.cons ?_ .nil))) ?_
  · rw [first, second]
    split
    · omega
    · split <;> omega
  · rw [third]
    omega
  · rw [fourth]
    omega
  · rw [first]
    change 64 * (64 * (64 * (v / 262144 % 8 + 240 - 0xf0) +
      (_ - 0x80)) + (_ - 0x80)) + (_ - 0x80) = v
    rw [second, third, fourth]
    omega

/-- The bytes of a character stand for its code. -/
theorem encodes_utf8EncodeChar (c : Char) :
    Encodes c.toNat (String.utf8EncodeChar c) := by
  have valid : c.toNat.isValidChar := c.valid
  have isValue : c.val.toNat = c.toNat := rfl
  unfold String.utf8EncodeChar
  dsimp only
  rw [isValue]
  generalize c.toNat = v at valid
  unfold Nat.isValidChar at valid
  split
  · next bound => exact encodes_one (by omega)
  · split
    · exact encodes_two (by omega) (by omega)
    · split
      · exact encodes_three (by omega) (by omega) (by omega)
      · exact encodes_four (by omega) (by omega)

theorem codes_utf8
    (surrogates : Bool)
    (position : Nat)
    (text : List Char) :
    codes surrogates position (utf8 text) = .ok (text.map Char.toNat) := by
  induction text generalizing position with
  | nil => rw [utf8, List.flatMap_nil, codes, List.map_nil]
  | cons c rest inductionHypothesis =>
      obtain ⟨next, read⟩ :=
        (encodes_utf8EncodeChar c).exists_codes surrogates position (utf8 rest)
      change codes surrogates position
        (String.utf8EncodeChar c ++ utf8 rest) = _
      rw [read, inductionHypothesis]
      rfl

end Utf8

/-- No character has the code of a surrogate, so that codes of characters are no
pairs. -/
theorem ofUnits_map_toNat (text : List Char) :
    ofUnits (text.map Char.toNat) = text := by
  induction text with
  | nil => rfl
  | cons c rest inductionHypothesis =>
      rw [List.map_cons, ofUnits_cons (not_isHighSurrogate c),
        charOfCode_toNat, inductionHypothesis]

/-- The bytes of a text are read as the text. -/
theorem Encoding.decode_utf8
    (surrogates : Bool)
    (position : Nat)
    (text : List Char) :
    utf8.decode surrogates position (Text.utf8 text) = .ok text := by
  rw [decode, codes, Utf8.codes_utf8, map_ok, ofUnits_map_toNat]

/-- Each of the first 128 characters has one byte. -/
theorem utf8_cons_of_lt
    {c : Char}
    (bound : c.toNat < 0x80)
    (rest : List Char) :
    utf8 (c :: rest) = UInt8.ofNat c.toNat :: utf8 rest := by
  have one : String.utf8EncodeChar c = [UInt8.ofNat c.toNat] := by
    rw [String.utf8EncodeChar]
    exact if_pos (Nat.le_of_lt_succ bound)
  rw [utf8, List.flatMap_cons, one]
  rfl

/-! ## Null bytes -/

theorem ne_zero_of_mem_utf8EncodeChar
    {c : Char}
    (noNull : c ≠ '\x00')
    {byte : UInt8}
    (member : byte ∈ String.utf8EncodeChar c) :
    byte ≠ 0 := by
  have positive : c.val.toNat ≠ 0 := by
    intro zero
    exact noNull (Char.ext (UInt32.toNat_inj.mp zero))
  have nonzero {n : Nat} (bound : n < 0x100) (positive : n ≠ 0) :
      UInt8.ofNat n ≠ 0 := by
    intro zero
    have value := congrArg UInt8.toNat zero
    rw [Utf8.toNat_ofNat bound] at value
    exact positive value
  unfold String.utf8EncodeChar at member
  dsimp only at member
  generalize c.val.toNat = v at member positive
  split at member
  · cases List.mem_singleton.mp member
    exact nonzero (by omega) positive
  · split at member
    · simp only [List.mem_cons, List.not_mem_nil, or_false] at member
      rcases member with rfl | rfl <;> exact nonzero (by omega) (by omega)
    · split at member
      · simp only [List.mem_cons, List.not_mem_nil, or_false] at member
        rcases member with rfl | rfl | rfl <;>
          exact nonzero (by omega) (by omega)
      · simp only [List.mem_cons, List.not_mem_nil, or_false] at member
        rcases member with rfl | rfl | rfl | rfl <;>
          exact nonzero (by omega) (by omega)

/-- Only the null character has a null byte. -/
theorem zero_not_mem_utf8
    {text : List Char}
    (noNull : '\x00' ∉ text) :
    0 ∉ utf8 text := by
  intro member
  obtain ⟨c, inText, inChar⟩ := List.mem_flatMap.mp member
  have noNullChar : c ≠ '\x00' := by
    rintro rfl
    exact noNull inText
  exact ne_zero_of_mem_utf8EncodeChar noNullChar inChar rfl

end Text
end PathRouter
