/-! # Text without control sequences

A text from outside can hold sequences that a terminal obeys. What is shown of
it is the rest: printable characters and the blanks, tabs and line ends among
them. -/

namespace Chip8.Terminal

/-- How far a terminal is in a control sequence. -/
inductive Progress where
  /-- In none. -/
  | outside
  /-- Behind the character that starts one. -/
  | started
  | startedLong
  /-- In a command with parameters, at its four stages. -/
  | command
  | parameters
  | commandLong
  | ignored
  /-- In a text that is not shown, which a bell may end. -/
  | hidden (bell : Bool)
deriving DecidableEq

namespace Progress

/-- Where a character from blank to tilde leads inside a sequence. -/
def next (p : Progress) (n : Nat) : Progress :=
  match p with
  | outside => outside
  | started =>
    if n < 0x30 then startedLong
    else if n = '['.toNat then command
    else if n = ']'.toNat then hidden true
    else if n = 'P'.toNat || n = 'X'.toNat || n = '^'.toNat || n = '_'.toNat then hidden false
    else outside
  | startedLong => if n < 0x30 then startedLong else outside
  | command =>
    if n < 0x30 then commandLong else if n < 0x40 then parameters else outside
  | parameters =>
    if n < 0x30 then commandLong
    else if n < 0x3C then parameters
    else if n < 0x40 then ignored
    else outside
  | commandLong => if n < 0x30 then commandLong else if n < 0x40 then ignored else outside
  | ignored => if n < 0x40 then ignored else outside
  | hidden bell => hidden bell

/-- Whether a control is a tab or a line end. -/
def isLayout (n : Nat) : Bool := n = 0x09 || n = 0x0A || n = 0x0C || n = 0x0D

/-- Where a character leads, and whether it is shown. A tab or a line end breaks
    a sequence off and is shown, and so is a character beyond ASCII. -/
def step (p : Progress) (c : Char) : Progress × Bool :=
  let n := c.toNat
  if 0x80 ≤ n then (outside, true)
  else if n = 0x1B then (started, false)
  else if n = 0x18 || n = 0x1A then (outside, false)
  else if n = 0x7F then (p, false)
  else if 0x20 ≤ n then (p.next n, p = outside)
  else match p with
    | hidden bell => (if bell && n = 0x07 then outside else p, false)
    | _ => if isLayout n then (outside, true) else (p, false)

/-- The characters of a text that are shown. -/
def shown (p : Progress) : List Char → List Char
  | [] => []
  | c :: more =>
    let (next, visible) := p.step c
    if visible then c :: shown next more else shown next more

end Progress

/-- What is shown of a text. -/
def plain (text : String) : String := String.ofList (Progress.outside.shown text.toList)

end Chip8.Terminal
