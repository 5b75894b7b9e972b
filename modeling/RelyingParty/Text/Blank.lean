import RelyingParty.Text

/-! Blank characters are those with the Unicode property White_Space. -/

namespace RelyingParty.Text

/-- The characters with the Unicode property White_Space. -/
def isBlank (c : Char) : Bool :=
  ('\t' ≤ c ∧ c ≤ '\r') ∨ c = ' ' ∨ c = '\u0085' ∨ c = '\u00a0' ∨ c = '\u1680'
    ∨ ('\u2000' ≤ c ∧ c ≤ '\u200a') ∨ c = '\u2028' ∨ c = '\u2029' ∨ c = '\u202f'
    ∨ c = '\u205f' ∨ c = '\u3000'

/-- The text without leading and trailing blanks. -/
def trim (text : Text) : Text := trimWhere isBlank text

/-- The words of a text, in order. -/
def words (text : Text) : List Text := wordsWhere isBlank text

end RelyingParty.Text
