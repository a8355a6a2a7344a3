/-!
# Sixteen-bit units

A code point beyond the first 65,536 is written as a pair of surrogate units, a
high one and a low one.  Units that form no pair stand for themselves, and a
surrogate that is left alone stands for the replacement character, since no
character has its code.

## Main statements

* `ofUnits_unitsOf_append`: reading the units of a character gives the
  character.
-/

namespace PathRouter
namespace Text

/-- The first half of a pair. -/
def isHighSurrogate (unit : Nat) : Bool := 0xd800 ≤ unit && unit < 0xdc00

/-- The second half of a pair. -/
def isLowSurrogate (unit : Nat) : Bool := 0xdc00 ≤ unit && unit < 0xe000

/-- The units of a character. -/
def unitsOf (c : Char) : List Nat :=
  if c.toNat < 0x10000 then [c.toNat]
  else
    let offset := c.toNat - 0x10000
    [0xd800 + offset / 0x400, 0xdc00 + offset % 0x400]

/-- The character with a code, or the replacement character. -/
def charOfCode (code : Nat) : Char :=
  if code.isValidChar then Char.ofNat code else Char.ofNat 0xfffd

/-- The code that a pair stands for. -/
def joinPair (high low : Nat) : Nat :=
  0x10000 + 0x400 * (high - 0xd800) + (low - 0xdc00)

/-- The text of a row of units, in which codes beyond the units stand for
themselves, too. -/
def ofUnits : List Nat → List Char
  | [] => []
  | [unit] => [charOfCode unit]
  | unit :: next :: rest =>
      if isHighSurrogate unit && isLowSurrogate next then
        charOfCode (joinPair unit next) :: ofUnits rest
      else charOfCode unit :: ofUnits (next :: rest)

@[simp] theorem charOfCode_toNat (c : Char) : charOfCode c.toNat = c := by
  have valid : c.toNat.isValidChar := c.valid
  simp [charOfCode, valid, Char.ofNat_toNat]

/-- No character has the code of a surrogate. -/
theorem not_isHighSurrogate (c : Char) : isHighSurrogate c.toNat = false := by
  have valid : c.toNat.isValidChar := c.valid
  simp only [Nat.isValidChar] at valid
  simp only [isHighSurrogate, Bool.and_eq_false_iff, decide_eq_false_iff_not]
  omega

/-- A code that is no high surrogate stands for itself. -/
theorem ofUnits_cons {code : Nat} (plain : isHighSurrogate code = false)
    (rest : List Nat) :
    ofUnits (code :: rest) = charOfCode code :: ofUnits rest := by
  cases rest with
  | nil => simp [ofUnits]
  | cons next rest => simp [ofUnits, plain]

/-- The units of a character at the front stand for the character. -/
theorem ofUnits_unitsOf_append (c : Char) (rest : List Nat) :
    ofUnits (unitsOf c ++ rest) = c :: ofUnits rest := by
  unfold unitsOf
  split
  · rw [List.singleton_append, ofUnits_cons (not_isHighSurrogate c),
      charOfCode_toNat]
  · next beyond =>
      have valid : c.toNat.isValidChar := c.valid
      simp only [Nat.isValidChar] at valid
      have high : isHighSurrogate (0xd800 + (c.toNat - 0x10000) / 0x400) =
          true := by
        simp only [isHighSurrogate, Bool.and_eq_true, decide_eq_true_eq]
        omega
      have low : isLowSurrogate (0xdc00 + (c.toNat - 0x10000) % 0x400) =
          true := by
        simp only [isLowSurrogate, Bool.and_eq_true, decide_eq_true_eq]
        omega
      have joined : joinPair (0xd800 + (c.toNat - 0x10000) / 0x400)
          (0xdc00 + (c.toNat - 0x10000) % 0x400) = c.toNat := by
        unfold joinPair
        omega
      simp only [List.cons_append, List.nil_append, ofUnits, high, low,
        Bool.and_self, if_true, joined, charOfCode_toNat]

end Text
end PathRouter
