import Chip8.Terminal.Width
import Chip8.Text.Cluster

/-! # Widths of clusters

A cluster mostly takes the cells of its characters. Selectors, joiners and
signs that put one letter below another change that, and each of them stands
behind the characters it bears on. So a cluster is read from its end. -/

namespace Chip8.Terminal

open Text

/-- What stands behind a character, as far as it bears on the cells of that
    character. -/
inductive Behind where
  | nothing
  /-- Asks for a picture. -/
  | pictureSelector
  /-- Asks for a plain sign. -/
  | signSelector
  /-- Asks for the wide form of a quotation mark. -/
  | wideSelector
  | skinTone
  | picture
  /-- A joiner with a picture behind it. -/
  | joined
  /-- What may stand between a joiner and the picture in front of it. -/
  | joinedSelector
  | joinedKeycap
  | joinedFlagLetter
  | joinedTags (letters digits : Nat)
  /-- A letter that can be written below another. -/
  | lowerLetter
  /-- A vowel sign that can be one with the sign before it. -/
  | vowelE
  | vowelAI
deriving DecidableEq

/-- The letters that can be written below another, and the sign in front of
    them that asks for it. -/
def lowerRanges : Ranges := #[
  (0x1780, 0x1782), (0x1784, 0x1787), (0x1789, 0x178C), (0x178E, 0x1793), (0x1795, 0x1798),
  (0x179B, 0x179D), (0x17A0, 0x17A0), (0x17A2, 0x17A2), (0x17A7, 0x17A7), (0x17AB, 0x17AC),
  (0x17AF, 0x17AF)]

def lowerSign : Char := '\u17D2'

/-- The signs that may stand between the two. -/
def passedRanges : Ranges := #[
  (0x034F, 0x034F), (0x17B4, 0x17B5), (0x180B, 0x180D), (0x180F, 0x180F), (0x200D, 0x200D),
  (0xFE00, 0xFE0F), (0xE0100, 0xE01EF)]

/-- The quotation marks that have a wide form. -/
def isQuotation (c : Char) : Bool :=
  c = '\u2018' || c = '\u2019' || c = '\u201C' || c = '\u201D'

/-- The flag to which tags add the name of a region, and the tag that ends it. -/
def blackFlag : Char := Char.ofNat 0x1F3F4

def lastTag : Char := Char.ofNat 0xE007F

/-- Vowel signs of which two in a row can be one. -/
def signAA : Char := Char.ofNat 0x16D63

def signE : Char := Char.ofNat 0x16D67

def signAI : Char := Char.ofNat 0x16D68

def signO : Char := Char.ofNat 0x16D69

namespace Behind

/-- What a character is to the one in front of it. -/
def ofChar (c : Char) : Behind :=
  if c = '\uFE0F' then pictureSelector
  else if c = '\uFE0E' then signSelector
  else if c = '\uFE01' then wideSelector
  else if isSkinTone c then skinTone
  else if isColoured c then picture
  else if lowerRanges.has c then lowerLetter
  else if c = signE then vowelE
  else if c = signAI then vowelAI
  else nothing

/-- The cells of a character whose form a selector behind it decides, and what
    it is to the one in front. -/
def selected? (b : Behind) (c : Char) : Option (Nat × Behind) :=
  match b with
  | pictureSelector => if hasChoice c then some (2, picture) else none
  | joinedSelector => if hasChoice c then some (0, picture) else none
  | signSelector =>
    if hasChoice c && isColoured c && !between 0x1F200 0x1F2FF c.toNat then some (1, nothing)
    else none
  | wideSelector => if isQuotation c then some (2, nothing) else none
  | _ => none

/-- Whether the tags behind a flag name a region: three to six letters, or
    three digits and at most four letters. -/
def nameRegion (letters digits : Nat) : Bool := (digits = 0 && 3 ≤ letters) || digits = 3

/-- What a character in front of a joined picture, or of what may stand between
    the two, adds to the cells, if the picture goes on. -/
def joinedBy? (b : Behind) (c : Char) : Option (Int × Behind) :=
  match b with
  | joined =>
    if c = '\u20E3' then some (0, joinedKeycap)
    else if c = lastTag then some (0, joinedTags 0 0)
    else if isFlagLetter c then some (1, joinedFlagLetter)
    else if isSkinTone c then some (0, skinTone)
    else if isColoured c then some (0, picture)
    else none
  | joinedFlagLetter => if isFlagLetter c then some (-1, picture) else none
  | joinedTags letters digits =>
    if between 0xE0061 0xE007A c.toNat && digits = 0 && letters < 6 then
      some (0, joinedTags (letters + 1) 0)
    else if between 0xE0030 0xE0039 c.toNat && letters ≤ 4 && digits < 3 then
      some (0, joinedTags letters (digits + 1))
    else if c = blackFlag && nameRegion letters digits then some (0, picture)
    else none
  | _ => none

/-- What a character adds to the cells together with the one behind it, if the
    two are more than neighbours. -/
def paired? (b : Behind) (c : Char) : Option (Int × Behind) :=
  match b with
  | skinTone =>
    if takesSkinTone c then some (0, picture)
    else if c = Text.joiner then some (0, joined)
    else none
  | picture => if c = Text.joiner then some (0, joined) else none
  | lowerLetter =>
    if c = lowerSign then some (-1, nothing)
    else if passedRanges.has c then some (0, lowerLetter)
    else none
  | vowelE =>
    if c = signAA || c = signO then some (0, nothing)
    else if c = signE then some (0, vowelAI)
    else if c = signAI then some (1, vowelE)
    else none
  | vowelAI => if c = signAA then some (0, nothing) else none
  | joined | joinedFlagLetter | joinedTags _ _ => b.joinedBy? c
  | _ => none

/-- What a character adds to the cells, given what is behind it. -/
def add (b : Behind) (c : Char) : Int × Behind :=
  match b.selected? c with
  | some (cells, next) => (cells, next)
  | none =>
    match b.paired? c with
    | some (cells, next) => (cells, next)
    | none =>
      if c = '\uFE0F' && (b = joined || b = joinedKeycap) then (0, joinedSelector)
      else (charWidth c, ofChar c)

end Behind

/-- The cells of the end of a cluster, and what that end is to the character in
    front of it. -/
def endWidth : List Char → Int × Behind
  | [] => (0, .nothing)
  | c :: more =>
    let (cells, behind) := endWidth more
    let (added, next) := behind.add c
    (cells + added, next)

/-- The cells that a cluster takes. -/
def clusterWidth (cluster : List Char) : Nat := (endWidth cluster).1.toNat

end Chip8.Terminal
