/-!
# Stems of English words

Searching for *feeds* finds *feed*: words are compared by their **stems**, which are found by
stripping the endings of English. The rules are for lower-case words without apostrophes. Letters
other than those of the English alphabet count as consonants.

* `Stem.ofWord` – the stem of a word.

Endings are stripped in five steps. Most endings go only if they lie in one of two
**regions**: the first begins behind the first consonant that follows a vowel, the second is found
in the same way inside the first. A `y` that begins the word or follows a vowel is a consonant; it
is written as a capital while the steps run.
-/

namespace LiveSearch.Text.Stem

/-! ### Vowels and regions -/

/-- Is the letter a vowel? -/
def isVowel (c : Char) : Bool :=
  c = 'a' || c = 'e' || c = 'i' || c = 'o' || c = 'u' || c = 'y'

/-- Writes the consonants `y` as capitals, `previous` being the letter before. -/
def markFrom (previous : Option Char) : List Char → List Char
  | [] => []
  | c :: rest =>
    let consonant := c = 'y' && (match previous with | none => true | some p => isVowel p)
    let c := if consonant then 'Y' else c
    c :: markFrom (some c) rest

/-- The word with its consonants `y` written as capitals. -/
def mark (word : List Char) : List Char :=
  markFrom none word

/-- The word with all its `y` in small letters. -/
def unmark (word : List Char) : List Char :=
  word.map fun c => if c = 'Y' then 'y' else c

/-- The number of letters up to and including the first consonant that follows a vowel, or of all
letters if there is none. -/
def regionStart (word : List Char) : Nat :=
  let consonants := (word.takeWhile fun c => !isVowel c).length
  let vowels := ((word.drop consonants).takeWhile isVowel).length
  min word.length (consonants + vowels + 1)

/-- The beginnings behind which the first region starts, whatever their vowels. -/
def fixedBeginnings : List (List Char) :=
  ["gener", "commun", "arsen"].map String.toList

/-- Where the first region begins. -/
def firstRegion (word : List Char) : Nat :=
  match fixedBeginnings.find? (·.isPrefixOf word) with
  | some beginning => beginning.length
  | none => regionStart word

/-- Where the second region begins. -/
def secondRegion (word : List Char) : Nat :=
  let first := firstRegion word
  first + regionStart (word.drop first)

/-- Does the word, given backwards, end in a **short syllable**: a vowel between a consonant and a
consonant other than `w`, `x` and the consonant `y`, or a vowel that begins the word and a
consonant? -/
def endsShort : List Char → Bool
  | [c, v] => !isVowel c && isVowel v
  | c :: v :: d :: _ =>
    !isVowel c && c ≠ 'w' && c ≠ 'x' && c ≠ 'Y' && isVowel v && !isVowel d
  | _ => false

/-! ### Endings -/

/-- An **ending** that a step replaces. -/
structure Ending where
  /-- The ending. -/
  suffix : String
  /-- What takes its place. -/
  replacement : String
  /-- Whether it may go, by the letters before it, given backwards, and their number. -/
  allowed : List Char → Nat → Bool

/-- The longest of several endings that a word has. -/
def longest (endings : List Ending) (word : List Char) : Option Ending :=
  endings.foldl (fun best e =>
    if e.suffix.toList.isSuffixOf word then
      match best with
      | none => some e
      | some b => if b.suffix.length < e.suffix.length then some e else some b
    else best) none

/-- The letters before an ending. -/
def before (e : Ending) (word : List Char) : List Char :=
  word.take (word.length - e.suffix.length)

/-- Replaces the longest ending that the word has, if that one may go. -/
def replaceLongest (endings : List Ending) (word : List Char) : List Char :=
  match longest endings word with
  | none => word
  | some e =>
    let stem := before e word
    if e.allowed stem.reverse stem.length then stem ++ e.replacement.toList else word

/-- Endings that are replaced whenever they begin at position `start` or later. -/
def endingsIn (start : Nat) (pairs : List (String × String)) : List Ending :=
  pairs.map fun (suffix, replacement) =>
    { suffix, replacement, allowed := fun _ size => start ≤ size }

/-! ### The steps -/

/-- The endings of plurals and of the third person. -/
def pluralEndings : List Ending :=
  [⟨"sses", "ss", fun _ _ => true⟩,
    ⟨"ied", "i", fun _ size => 2 ≤ size⟩, ⟨"ied", "ie", fun _ size => size < 2⟩,
    ⟨"ies", "i", fun _ size => 2 ≤ size⟩, ⟨"ies", "ie", fun _ size => size < 2⟩,
    ⟨"s", "", fun stem _ => (stem.drop 1).any isVowel⟩,
    ⟨"us", "us", fun _ _ => true⟩, ⟨"ss", "ss", fun _ _ => true⟩]

/-- Strips the ending of a plural. Where an ending is listed twice the two rules exclude each
other. -/
def stripPlural (word : List Char) : List Char :=
  match longest pluralEndings word with
  | none => word
  | some e =>
    let stem := before e word
    let fits := fun r => r.suffix = e.suffix && r.allowed stem.reverse stem.length
    match pluralEndings.find? fits with
    | some r => stem ++ r.replacement.toList
    | none => word

/-- The doubled consonants of which one goes. -/
def doubles : List (List Char) :=
  ["bb", "dd", "ff", "gg", "mm", "nn", "pp", "rr", "tt"].map String.toList

/-- Repairs the stem that is left when `ed` or `ing` has been stripped. -/
def repair (first : Nat) (stem : List Char) : List Char :=
  if [['a', 't'], ['b', 'l'], ['i', 'z']].any (·.isSuffixOf stem) then stem ++ ['e']
  else if doubles.any (·.isSuffixOf stem) then stem.dropLast
  else if stem.length = first && endsShort stem.reverse then stem ++ ['e']
  else stem

/-- Strips the endings of the past and of the participles. -/
def stripParticiple (first : Nat) (word : List Char) : List Char :=
  let always : String → Ending := fun suffix => ⟨suffix, "", fun _ _ => true⟩
  match longest (["eed", "eedly", "ed", "edly", "ing", "ingly"].map always) word with
  | none => word
  | some e =>
    let stem := before e word
    if e.suffix = "eed" || e.suffix = "eedly" then
      if first ≤ stem.length then stem ++ ['e', 'e'] else word
    else if stem.any isVowel then repair first stem
    else word

/-- Replaces a final `y` behind a consonant that does not begin the word. -/
def softenY (word : List Char) : List Char :=
  match word.reverse with
  | y :: c :: rest =>
    if (y = 'y' || y = 'Y') && !isVowel c && !rest.isEmpty then (c :: rest).reverse ++ ['i']
    else word
  | _ => word

/-- The letters before which the ending `li` goes. -/
def isBeforeLi (c : Char) : Bool :=
  c ∈ ['c', 'd', 'e', 'g', 'h', 'k', 'm', 'n', 'r', 't']

/-- The compound endings that are made simple. -/
def compoundEndings (first : Nat) : List Ending :=
  endingsIn first
    [("tional", "tion"), ("enci", "ence"), ("anci", "ance"), ("abli", "able"), ("entli", "ent"),
      ("izer", "ize"), ("ization", "ize"), ("ational", "ate"), ("ation", "ate"), ("ator", "ate"),
      ("alism", "al"), ("aliti", "al"), ("alli", "al"), ("fulness", "ful"), ("ousli", "ous"),
      ("ousness", "ous"), ("iveness", "ive"), ("iviti", "ive"), ("biliti", "ble"), ("bli", "ble"),
      ("fulli", "ful"), ("lessli", "less")] ++
  [⟨"ogi", "og", fun stem size => first ≤ size && stem.head? = some 'l'⟩,
    ⟨"li", "", fun stem size => first ≤ size && stem.head?.any isBeforeLi⟩]

/-- The further endings that are made simple or go. -/
def adjectiveEndings (first second : Nat) : List Ending :=
  endingsIn first
    [("tional", "tion"), ("ational", "ate"), ("alize", "al"), ("icate", "ic"), ("iciti", "ic"),
      ("ical", "ic"), ("ful", ""), ("ness", "")] ++
  [⟨"ative", "", fun _ size => first ≤ size && second ≤ size⟩]

/-- The endings that go if they lie in the second region. -/
def residualEndings (second : Nat) : List Ending :=
  endingsIn second
    (["al", "ance", "ence", "er", "ic", "able", "ible", "ant", "ement", "ment", "ent", "ism", "ate",
      "iti", "ous", "ive", "ize"].map (·, "")) ++
  [⟨"ion", "", fun stem size =>
    second ≤ size && (stem.head? = some 's' || stem.head? = some 't')⟩]

/-- The last letters that go: an `e`, and one of two `l`. -/
def finalEndings (first second : Nat) : List Ending :=
  [⟨"e", "", fun stem size => second ≤ size || (first ≤ size && !endsShort stem)⟩,
    ⟨"l", "", fun stem size => second ≤ size && stem.head? = some 'l'⟩]

/-! ### Whole words -/

/-- The words with a stem of their own. -/
def irregular : List (String × String) :=
  [("skis", "ski"), ("skies", "sky"), ("dying", "die"), ("lying", "lie"), ("tying", "tie"),
    ("idly", "idl"), ("gently", "gentl"), ("ugly", "ugli"), ("early", "earli"), ("only", "onli"),
    ("singly", "singl"), ("sky", "sky"), ("news", "news"), ("howe", "howe"), ("atlas", "atlas"),
    ("cosmos", "cosmos"), ("bias", "bias"), ("andes", "andes")]

/-- The words that are left alone once the plural has been stripped. -/
def invariant : List (List Char) :=
  ["inning", "outing", "canning", "herring", "earring", "proceed", "exceed", "succeed"].map
    String.toList

/-- The stem of a regular word of at least three letters. -/
def ofRegular (word : List Char) : List Char :=
  let word := mark word
  let first := firstRegion word
  let second := secondRegion word
  let word := stripPlural word
  if word ∈ invariant then word
  else
    let word := softenY (stripParticiple first word)
    let word := replaceLongest (compoundEndings first) word
    let word := replaceLongest (adjectiveEndings first second) word
    let word := replaceLongest (residualEndings second) word
    unmark (replaceLongest (finalEndings first second) word)

/-- The stem of a word. Words of one or two letters are their own stems. -/
def ofWord (word : List Char) : List Char :=
  match irregular.find? (·.1.toList = word) with
  | some (_, stem) => stem.toList
  | none => if word.length < 3 then word else ofRegular word

end LiveSearch.Text.Stem
