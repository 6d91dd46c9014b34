-- SUMMARY: Which texts are JSON, and what their strings spell, said without a reader.
import Chip8.Proofs.Json.Record

/-! # JSON texts

A value is a word, a number, a string, a list or an object. Blanks may stand
around every item of a list, around the name and the value of every member of an
object, and between the brackets of an empty list or object. A number that
starts with a zero has no other digit in front of its point.

Strings come twice: `IsString` is their form, `Spells` also what they stand for. A
string of the right form spells nothing when it escapes half of a surrogate
pair. -/

namespace Chip8.Json

/-! ## Blanks, items and members -/

/-- Any number of blanks. -/
structure Blanks where
  text : List Char
  blank : ∀ c ∈ text, isBlank c = true

/-- A text with blanks around it. -/
structure Item where
  before : Blanks
  core : List Char
  after : Blanks

def Item.text (i : Item) : List Char := i.before.text ++ (i.core ++ i.after.text)

/-- A name between quotes, with blanks around it, and a value. -/
structure Member where
  before : Blanks
  name : List Char
  after : Blanks
  value : Item

/-- The characters of a member behind its opening quote. -/
def Member.behindQuote (m : Member) : List Char :=
  m.name ++ '"' :: (m.after.text ++ ':' :: m.value.text)

def Member.text (m : Member) : List Char := m.before.text ++ '"' :: m.behindQuote

/-- Texts with a comma between any two. -/
def commaSeparated (texts : List (List Char)) : List Char := [','].intercalate texts

def listText (pad : Blanks) (items : List Item) : List Char :=
  '[' :: (pad.text ++ (commaSeparated (items.map Item.text) ++ [']']))

def objectText (pad : Blanks) (members : List Member) : List Char :=
  '\x7b' :: (pad.text ++ (commaSeparated (members.map Member.text) ++ ['\x7d']))

/-! ## Numbers -/

/-- One digit or more. -/
structure IsDigits (s : List Char) : Prop where
  nonempty : s ≠ []
  digits : ∀ c ∈ s, c.isDigit = true

/-- The digits in front of the point. -/
inductive IsInteger : List Char → Prop where
  | zero : IsInteger ['0']
  | digits {c : Char} {s : List Char} (hzero : c ≠ '0') (h : ∀ d ∈ c :: s, d.isDigit = true) :
      IsInteger (c :: s)

/-- The point and the digits behind it, if there are any. -/
inductive IsFraction : List Char → Prop where
  | none : IsFraction []
  | digits {s : List Char} (h : IsDigits s) : IsFraction ('.' :: s)

inductive IsSign : List Char → Prop where
  | none : IsSign []
  | plus : IsSign ['+']
  | minus : IsSign ['-']

/-- The mark of an exponent and its digits, if there are any. -/
inductive IsExponent : List Char → Prop where
  | none : IsExponent []
  | digits {c : Char} {sign s : List Char} (hmark : c = 'e' ∨ c = 'E') (hsign : IsSign sign)
      (h : IsDigits s) : IsExponent (c :: (sign ++ s))

/-- A number without its sign. -/
inductive IsUnsigned : List Char → Prop where
  | mk {whole fraction exponent : List Char} (hwhole : IsInteger whole)
      (hfraction : IsFraction fraction) (hexponent : IsExponent exponent) :
      IsUnsigned (whole ++ (fraction ++ exponent))

inductive IsNumber : List Char → Prop where
  | positive {s : List Char} (h : IsUnsigned s) : IsNumber s
  | negative {s : List Char} (h : IsUnsigned s) : IsNumber ('-' :: s)

/-! ## Strings -/

/-- Four hexadecimal digits and their value. -/
inductive IsHex : List Char → Nat → Prop where
  | mk {a b c d : Char} {i j k l : Nat} (ha : hexValue? a = some i) (hb : hexValue? b = some j)
      (hc : hexValue? c = some k) (hd : hexValue? d = some l) :
      IsHex [a, b, c, d] (((i * 16 + j) * 16 + k) * 16 + l)

/-- The form of what stands between two quotes. -/
inductive IsString : List Char → Prop where
  | nil : IsString []
  | plain {c : Char} {s : List Char} (hc : isPlain c = true) (hs : IsString s) : IsString (c :: s)
  | escape {c d : Char} {s : List Char} (hc : plainEscape? c = some d) (hs : IsString s) :
      IsString ('\\' :: c :: s)
  | unicode {hex s : List Char} {n : Nat} (hhex : IsHex hex n) (hs : IsString s) :
      IsString ('\\' :: 'u' :: (hex ++ s))

/-- What stands between two quotes, and the text that it stands for. -/
inductive Spells : List Char → List Char → Prop where
  | nil : Spells [] []
  | plain {c : Char} {s t : List Char} (hc : isPlain c = true) (hs : Spells s t) :
      Spells (c :: s) (c :: t)
  | escape {c d : Char} {s t : List Char} (hc : plainEscape? c = some d) (hs : Spells s t) :
      Spells ('\\' :: c :: s) (d :: t)
  | unicode {hex s t : List Char} {n : Nat} (hhex : IsHex hex n) (hlow : isLowSurrogate n = false)
      (hhigh : isHighSurrogate n = false) (hs : Spells s t) :
      Spells ('\\' :: 'u' :: (hex ++ s)) (Char.ofNat n :: t)
  | pair {hex hex' s t : List Char} {high low : Nat} (hhex : IsHex hex high)
      (hhigh : isHighSurrogate high = true) (hhex' : IsHex hex' low)
      (hlow : isLowSurrogate low = true) (hs : Spells s t) :
      Spells ('\\' :: 'u' :: (hex ++ '\\' :: 'u' :: (hex' ++ s))) (joinSurrogates high low :: t)

/-! ## Values -/

/-- A value, without blanks around it. -/
inductive IsValue : List Char → Prop where
  | null : IsValue ['n', 'u', 'l', 'l']
  | yes : IsValue ['t', 'r', 'u', 'e']
  | no : IsValue ['f', 'a', 'l', 's', 'e']
  | number {s : List Char} (h : IsNumber s) : IsValue s
  | string {s : List Char} (h : IsString s) : IsValue ('"' :: (s ++ ['"']))
  | list (pad : Blanks) (items : List Item) (h : ∀ i ∈ items, IsValue i.core) :
      IsValue (listText pad items)
  | object (pad : Blanks) (members : List Member) (hnames : ∀ m ∈ members, IsString m.name)
      (h : ∀ m ∈ members, IsValue m.value.core) : IsValue (objectText pad members)

end Chip8.Json
