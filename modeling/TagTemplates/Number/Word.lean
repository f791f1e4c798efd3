/-!
# Words

The whole numbers that fit in a word of 64 bits, with and without a sign.
-/

namespace TagTemplates.Number

/-- The number of words: 2 to the power of 64. -/
def wordCount : Nat := 18446744073709551616

/-- The number of words without their sign: 2 to the power of 63. -/
def signedLimit : Nat := 9223372036854775808

/-- Whether a number fits in a word with a sign. -/
def fitsSigned (i : Int) : Bool := -(signedLimit : Int) ≤ i && i < signedLimit

/-- Whether a number fits in a word, with or without a sign. -/
def fitsWord (i : Int) : Bool := -(signedLimit : Int) ≤ i && i < wordCount

/-- The word with a sign that a number becomes when its higher bits are dropped. -/
def wrap (i : Int) : Int := Int.bmod i wordCount

end TagTemplates.Number
