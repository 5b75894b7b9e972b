import RelyingParty.Text.Blank
import RelyingParty.Text.Case
import RelyingParty.Url.Direction
import RelyingParty.Url.Punycode

/-! Domain names in ASCII: letters in lower case, and labels of other characters in Punycode. -/

namespace RelyingParty.Domain

/-- The characters that names pass over. -/
def isIgnored (c : Char) : Bool :=
  c = '\u00ad' || c = '\u034f' || c = '\u200b' || c = '\u2060' || c = '\u2064' || c = '\ufeff'
    || c = '\u180f' || ('\u180b' ≤ c && c ≤ '\u180d') || ('\ufe00' ≤ c && c ≤ '\ufe0f')
    || (0x1BCA0 ≤ c.toNat && c.toNat ≤ 0x1BCA3) || (0xE0100 ≤ c.toNat && c.toNat ≤ 0xE01EF)

/-- The characters that stand for the point between labels. -/
def isPoint (c : Char) : Bool := c = '\u3002' || c = '\uff0e' || c = '\uff61'

/-- The form of a character in names: lower case, and ASCII for its wide forms. This only
approximates the mapping of UTS 46: other compatible forms stay as they are written, and no marks
are composed with the characters in front of them. -/
def fold (c : Char) : Text :=
  if c.toNat < 128 then [c.toLower]
  else if isIgnored c then []
  else if isPoint c then ['.']
  -- The wide forms stand in the order of ASCII.
  else if '\uff01' ≤ c ∧ c ≤ '\uff5e' then [(Char.ofNat (c.toNat - 0xFEE0)).toLower]
  else if Text.isBlank c then [' ']
  else Text.lowerChar c

/-- The characters of ASCII that no name holds. -/
def isForbidden (c : Char) : Bool :=
  c ≤ ' ' || c = '\x7f' || "%#/:<>?@[\\]^|".toList.contains c

/-- Runs of characters with a shape of their own that no name holds, most of them since they stand
for a blank or for a mark of URLs. -/
def maskedRuns : List (Nat × Nat) :=
  [(0xA8, 0xA8), (0xAF, 0xAF), (0xB4, 0xB4), (0xB8, 0xB8), (0x2D8, 0x2DD), (0x37A, 0x37A),
    (0x384, 0x385), (0x115F, 0x1160), (0x17B4, 0x17B5), (0x1806, 0x1806), (0x1FBD, 0x1FBD),
    (0x1FBF, 0x1FC1), (0x1FCD, 0x1FCF), (0x1FDD, 0x1FDF), (0x1FED, 0x1FEE), (0x1FFD, 0x1FFE),
    (0x2017, 0x2017), (0x2024, 0x2026), (0x203E, 0x203E), (0x2047, 0x2049), (0x2100, 0x2101),
    (0x2105, 0x2106), (0x2488, 0x249B), (0x2A74, 0x2A74), (0x2FF0, 0x2FFF), (0x309B, 0x309C),
    (0x3164, 0x3164), (0x33C2, 0x33C2), (0x33C7, 0x33C7), (0x33D8, 0x33D8), (0xFC5E, 0xFC63),
    (0xFDFA, 0xFDFB), (0xFE12, 0xFE13), (0xFE16, 0xFE16), (0xFE19, 0xFE19), (0xFE30, 0xFE30),
    (0xFE47, 0xFE4C), (0xFE52, 0xFE52), (0xFE55, 0xFE56), (0xFE5F, 0xFE5F), (0xFE64, 0xFE65),
    (0xFE68, 0xFE68), (0xFE6A, 0xFE70), (0xFE72, 0xFE72), (0xFE74, 0xFE76), (0xFE78, 0xFE78),
    (0xFE7A, 0xFE7A), (0xFE7C, 0xFE7C), (0xFE7E, 0xFE7E), (0xFFA0, 0xFFA0), (0xFFE3, 0xFFE3),
    (0xFFFC, 0xFFFD), (0x1F100, 0x1F100)]

/-- Runs of the characters that take the vowel from a consonant. -/
def viramaRuns : List (Nat × Nat) :=
  [(0x94D, 0x94D), (0x9CD, 0x9CD), (0xA4D, 0xA4D), (0xACD, 0xACD), (0xB4D, 0xB4D), (0xBCD, 0xBCD),
    (0xC4D, 0xC4D), (0xCCD, 0xCCD), (0xD3B, 0xD3C), (0xD4D, 0xD4D), (0xDCA, 0xDCA), (0xE3A, 0xE3A),
    (0xEBA, 0xEBA), (0xF84, 0xF84), (0x1039, 0x103A), (0x1714, 0x1715), (0x1734, 0x1734),
    (0x17D2, 0x17D2), (0x1A60, 0x1A60), (0x1B44, 0x1B44), (0x1BAA, 0x1BAB), (0x1BF2, 0x1BF3),
    (0x2D7F, 0x2D7F), (0xA806, 0xA806), (0xA82C, 0xA82C), (0xA8C4, 0xA8C4), (0xA953, 0xA953),
    (0xA9C0, 0xA9C0), (0xAAF6, 0xAAF6), (0xABED, 0xABED), (0x10A3F, 0x10A3F), (0x11046, 0x11046),
    (0x11070, 0x11070), (0x1107F, 0x1107F), (0x110B9, 0x110B9), (0x11133, 0x11134),
    (0x111C0, 0x111C0), (0x11235, 0x11235), (0x112EA, 0x112EA), (0x1134D, 0x1134D),
    (0x113CE, 0x113D0), (0x11442, 0x11442), (0x114C2, 0x114C2), (0x115BF, 0x115BF),
    (0x1163F, 0x1163F), (0x116B6, 0x116B6), (0x1172B, 0x1172B), (0x11839, 0x11839),
    (0x1193D, 0x1193E), (0x119E0, 0x119E0), (0x11A34, 0x11A34), (0x11A47, 0x11A47),
    (0x11A99, 0x11A99), (0x11C3F, 0x11C3F), (0x11D44, 0x11D45), (0x11D97, 0x11D97),
    (0x11F41, 0x11F42), (0x1612F, 0x1612F)]

/-- Whether a character outside ASCII is one that no name holds: without a shape, unless it belongs
to a word, or masked. -/
def isForeign (c : Char) : Bool :=
  128 ≤ c.toNat && (Text.isWithin maskedRuns c || !(Text.isVisible c || Text.isWordChar c))

/-- Whether a character is a joiner, which stands only behind a virama. -/
def isJoiner (c : Char) : Bool := c = '\u200c' || c = '\u200d'

/-- Whether every joiner of a label stands behind a virama; the first argument is what precedes. -/
def joinsFrom (behindVirama : Bool) : Text → Bool
  | [] => true
  | c :: rest => (!isJoiner c || behindVirama) && joinsFrom (Text.isWithin viramaRuns c) rest

/-- Whether a label outside ASCII may stand in a name: its first character has a shape of its own,
its joiners are in place, and it holds nothing foreign. -/
def isLawful (label : Text) : Bool :=
  label.head?.any Text.isVisible && joinsFrom false label && !label.any isForeign

/-- The start of labels in Punycode. -/
def encodedStart : Text := "xn--"

/-- Whether a label in Punycode is the only one of what it stands for. -/
def isCanonical (written : Text) : Bool :=
  match Punycode.decode? written with
  | none => false
  | some label =>
    -- Writing the label again has to give the same text, so that no name has two forms.
    label.any (128 ≤ ·.toNat) && label.flatMap fold = label && isLawful label
      && Punycode.encode label = written

/-- The ASCII form of a folded label. -/
def labelToAscii? (label : Text) : Option Text :=
  match Text.dropStart? encodedStart label with
  | some written => if isCanonical written then some label else none
  | none =>
    if label.all (·.toNat < 128) then some label
    else if isLawful label then some (encodedStart ++ Punycode.encode label)
    else none

/-- What a folded label stands for. -/
def readable (label : Text) : Text :=
  ((Text.dropStart? encodedStart label).bind Punycode.decode?).getD label

/-- The ASCII form of a name. -/
def toAscii? (name : Text) : Option Text := do
  let labels := Text.splitAll '.' (name.flatMap fold)
  let ascii := List.intercalate ['.'] (← labels.mapM labelToAscii?)
  if ascii.any isForbidden || !Direction.areOrderly (labels.map readable) then none
  else return ascii

end RelyingParty.Domain
