import Chip8.Text.Conjunct
import Chip8.Text.Marks
import Chip8.Text.Picture

/-! # Clusters

What a reader takes for one character is often written as several: a letter
with its marks, a Korean syllable by its sounds, a flag by two letters, a
picture made of others. Such a cluster stays together when text is drawn. -/

namespace Chip8.Text

/-- The characters that stand alone: controls, line ends and format characters. -/
def breakRanges : Ranges := #[
  (0x0000, 0x001F), (0x007F, 0x009F), (0x00AD, 0x00AD), (0x061C, 0x061C), (0x180E, 0x180E),
  (0x200B, 0x200B), (0x200E, 0x200F), (0x2028, 0x202E), (0x2060, 0x206F), (0xFEFF, 0xFEFF),
  (0xFFF0, 0xFFFB), (0x13430, 0x1343F), (0x1BCA0, 0x1BCA3), (0x1D173, 0x1D17A),
  (0xE0000, 0xE001F), (0xE0080, 0xE00FF), (0xE01F0, 0xE0FFF)]

/-- The character that joins its neighbours. -/
def joiner : Char := '\u200D'

/-- What a character is to its neighbours. -/
inductive Role where
  /-- It is in no cluster with others. -/
  | alone
  /-- A mark, which may link two consonants. -/
  | mark (links : Bool)
  /-- The sign that keeps two letters apart. It belongs to what is before it,
      but no conjunct goes on across it. -/
  | attached
  | joiner
  | spacing
  | lead
  | flagLetter
  | picture
  | consonant
  /-- The parts of a Korean syllable, and whole syllables without and with a
      final sound. -/
  | initial
  | vowel
  | final
  | openSyllable
  | closedSyllable
  | other
deriving DecidableEq

/-! ## Roles -/

/-- Whether a number lies between two others, both included. -/
def between (low high n : Nat) : Bool := low ≤ n && n ≤ high

/-- The part that a character has in a Korean syllable. A few vowel signs of
    another script are joined by the same rules. -/
def syllablePart? (c : Char) : Option Role :=
  let n := c.toNat
  if between 0x1100 0x115F n || between 0xA960 0xA97C n then some .initial
  else if between 0x1160 0x11A7 n || between 0xD7B0 0xD7C6 n || n = 0x16D63 ||
      between 0x16D67 0x16D6A n then some .vowel
  else if between 0x11A8 0x11FF n || between 0xD7CB 0xD7FB n then some .final
  else if between 0xAC00 0xD7A3 n then
    some (if (n - 0xAC00) % 28 = 0 then .openSyllable else .closedSyllable)
  else none

/-- The role of a character. -/
def Role.ofChar (c : Char) : Role :=
  if c.toNat < 0x20 then alone
  else if c.toNat < 0x7F then other
  else if c = Text.joiner then joiner
  else if c = '\u200C' then attached
  else if isAttached c then mark (isLinker c)
  else if isFlagLetter c then flagLetter
  else if breakRanges.has c then alone
  else if isSpacing c then spacing
  else if isLead c then lead
  else if isPicture c then picture
  else if isConsonant c then consonant
  else (syllablePart? c).getD other

/-! ## Joining -/

/-- What stands in front of a character, as far as it bears on whether the
    character begins a cluster. -/
structure Before where
  last : Role
  /-- Whether a consonant with nothing but marks and joiners behind it is in
      front, and whether one of them links. -/
  conjunct : Option Bool := none
  /-- Whether a picture with nothing but marks behind it is in front, and
      whether a joiner comes last. -/
  picture : Option Bool := none
  /-- Whether the number of flag letters in front is odd. -/
  oddFlag : Bool := false
deriving DecidableEq

namespace Before

/-- Nothing is in front of the first character. -/
def start : Before := { last := .alone }

/-- What is in front of the character after one more. -/
def after (b : Before) (r : Role) : Before where
  last := r
  conjunct := match r with
    | .consonant => some false
    | .mark links => b.conjunct.map (· || links)
    | .joiner => b.conjunct
    | _ => none
  picture := match r with
    | .picture => some false
    | .mark _ | .attached => b.picture.filter (!·)
    | .joiner => (b.picture.filter (!·)).map (!·)
    | _ => none
  oddFlag := r = .flagLetter && !b.oddFlag

/-- Whether a character goes on with the cluster in front of it. -/
def joins (b : Before) (r : Role) : Bool :=
  match b.last, r with
  | .alone, _ | _, .alone => false
  | _, .mark _ | _, .attached | _, .joiner | _, .spacing | .lead, _ => true
  | .initial, .initial | .initial, .vowel | .initial, .openSyllable
  | .initial, .closedSyllable => true
  | .openSyllable, .vowel | .openSyllable, .final | .vowel, .vowel | .vowel, .final => true
  | .closedSyllable, .final | .final, .final => true
  | .flagLetter, .flagLetter => b.oddFlag
  | _, .consonant => b.conjunct = some true
  | _, .picture => b.picture = some true
  | _, _ => false

end Before

/-- The rest of the cluster in front of a text, and the clusters behind it. -/
def split (b : Before) : List Char → List Char × List (List Char)
  | [] => ([], [])
  | c :: more =>
    let role := Role.ofChar c
    let (rest, others) := split (b.after role) more
    if b.joins role then (c :: rest, others) else ([], (c :: rest) :: others)

/-- The clusters of a text. -/
def clusters (text : List Char) : List (List Char) := (split .start text).2

end Chip8.Text
