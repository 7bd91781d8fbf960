import ServiceBlueprint.Text.NameTable

/-!
# Characters by name

A character is found by its name or by another name of it, in capital or small letters. Hangul
syllables are named by their letters and ideographs by their number, and the names of syllables and
of unified ideographs are known in capitals alone.
-/

namespace ServiceBlueprint.Text

/-- The first words of a name, each with the blank behind it. -/
def firstWords : Nat → List Char → List Char
  | 0, _ => []
  | k + 1, cs => cs.takeWhile (· ≠ ' ') ++ ' ' :: firstWords k ((cs.dropWhile (· ≠ ' ')).drop 1)

/-- The names of a run. `soFar` is what has been read of the first one, last character first. -/
def spellOut (soFar : List Char) : List Char → List (List Char)
  | [] => [soFar.reverse]
  | c :: cs =>
    if c.isLower then
      soFar.reverse :: spellOut (firstWords (c.toNat - 97) soFar.reverse).reverse cs
    else spellOut (c :: soFar) cs

def codeInRuns? (name : List Char) (runs : List NameRun) : Option Nat :=
  runs.findSome? fun (first, lines) =>
    ((spellOut [] (lines.flatMap (·.toList))).idxOf? name).map (first + ·)

def capitalHexValue? (c : Char) : Option Nat :=
  if c.isDigit then some (c.toNat - 48)
  else if 'A' ≤ c ∧ c ≤ 'F' then some (c.toNat - 55)
  else none

/-- A number of four or five hexadecimal digits, as it stands in names. -/
def numberInName? (cs : List Char) : Option Nat := do
  let ds ← cs.mapM capitalHexValue?
  if ds.length = 4 ∨ ds.length = 5 then some (ds.foldl (16 * · + ·) 0) else none

/-- The character of a name that ends in its number, given the names' common beginning and the
ranges of characters that have such a name. -/
def codeByNumber? (stem : String) (ranges : List (Nat × Nat)) (name : List Char) : Option Nat := do
  let n ← numberInName? (← stem.toList.isPrefixOf? name)
  if ranges.any fun (first, last) => first ≤ n && n ≤ last then some n else none

/-- The same where no zero leads the number. -/
def codeByPlainNumber? (stem : String) (ranges : List (Nat × Nat)) (name : List Char) :
    Option Nat :=
  if (stem ++ "0").toList.isPrefixOf name then none else codeByNumber? stem ranges name

def unifiedIdeographs : List (Nat × Nat) :=
  [(0x3400, 0x4DBF), (0x4E00, 0x9FFF), (0x20000, 0x2A6DF), (0x2A700, 0x2B738), (0x2B740, 0x2B81D),
    (0x2B820, 0x2CEA1), (0x2CEB0, 0x2EBE0), (0x30000, 0x3134A)]

/-- Other characters named by their number. -/
def numberedRanges : List (String × List (Nat × Nat)) :=
  [("CJK COMPATIBILITY IDEOGRAPH-", [(0xF900, 0xFA6D), (0xFA70, 0xFAD9), (0x2F800, 0x2FA1D)]),
    ("KHITAN SMALL SCRIPT CHARACTER-", [(0x18B00, 0x18CD5)]),
    ("NUSHU CHARACTER-", [(0x1B170, 0x1B2FB)])]

def leadingConsonants : List String :=
  ["G", "GG", "N", "D", "DD", "R", "M", "B", "BB", "S", "SS", "", "J", "JJ", "C", "K", "T", "P",
    "H"]

def syllableVowels : List String :=
  ["A", "AE", "YA", "YAE", "EO", "E", "YEO", "YE", "O", "WA", "WAE", "OE", "YO", "U", "WEO", "WE",
    "WI", "YU", "EU", "YI", "I"]

def trailingConsonants : List String :=
  ["", "G", "GG", "GS", "N", "NJ", "NH", "D", "L", "LG", "LM", "LB", "LS", "LT", "LP", "LH", "M",
    "B", "BS", "S", "SS", "NG", "J", "C", "K", "T", "P", "H"]

def isVowelLetter (c : Char) : Bool :=
  "AEIOUWY".toList.contains c

/-- A Hangul syllable is named by a consonant, a vowel and a consonant; either consonant may be
missing. -/
def syllable? (name : List Char) : Option Nat := do
  let letters ← "HANGUL SYLLABLE ".toList.isPrefixOf? name
  let rest := letters.dropWhile (!isVowelLetter ·)
  let lead ← leadingConsonants.idxOf? (String.ofList (letters.takeWhile (!isVowelLetter ·)))
  let vowel ← syllableVowels.idxOf? (String.ofList (rest.takeWhile isVowelLetter))
  let trail ← trailingConsonants.idxOf? (String.ofList (rest.dropWhile isVowelLetter))
  return 0xAC00 + (lead * syllableVowels.length + vowel) * trailingConsonants.length + trail

/-- The code point of the character with a name. -/
def codeNamed? (name : String) : Option Nat :=
  let written := name.toList
  let capitals := written.map Char.toUpper
  syllable? written <|>
  codeByNumber? "CJK UNIFIED IDEOGRAPH-" unifiedIdeographs written <|>
  numberedRanges.findSome? (fun (stem, ranges) => codeByPlainNumber? stem ranges capitals) <|>
  [scriptNames, symbolNames, oldScriptNames, pictureNames, otherNames].findSome?
    (codeInRuns? capitals)

end ServiceBlueprint.Text
