import Chip8.CommandLine.Options

/-! # Reading the command line

Words are read from left to right. A value that stands in a word of its own is
judged only when the next argument begins or the words end; a word that cannot
be an argument is refused before the value in front of it is judged. -/

namespace Chip8.CommandLine

/-! ## Numbers -/

/-- Takes decimal digits one by one. A number that outgrows `limit` is refused
    before the digits behind are looked at. -/
def readDigits (limit : Nat) (tooFar : NumberFault) (value : Nat) :
    List Char → Except NumberFault Nat
  | [] => .ok value
  | c :: more =>
    if !c.isDigit then .error .notDigit
    else
      let next := value * 10 + (c.toNat - '0'.toNat)
      if limit < next then .error tooFar else readDigits limit tooFar next more

/-- A whole number of 64 bits, with a sign if need be. -/
def readInteger (text : List Char) : Except NumberFault Int :=
  match text with
  | [] => .error .empty
  | ['+'] | ['-'] => .error .notDigit
  | '-' :: digits => (readDigits 0x8000000000000000 .tooSmall 0 digits).map fun n => -(n : Int)
  | '+' :: digits => (readDigits 0x7FFFFFFFFFFFFFFF .tooLarge 0 digits).map fun n => (n : Int)
  | digits => (readDigits 0x7FFFFFFFFFFFFFFF .tooLarge 0 digits).map fun n => (n : Int)

/-- A number that an option takes. -/
def readNumber (text : String) : Except NumberFault Nat :=
  match readInteger text.toList with
  | .error reason => .error reason
  | .ok n => if 0 ≤ n ∧ n ≤ numberLimit then .ok n.toNat else .error (.outside n)

/-! ## Arguments -/

/-- The arguments given so far. -/
structure Given where
  program : Option String := none
  frameRate : Option Nat := none
  speed : Option Nat := none
  clip : Bool := false
  frames : Option Nat := none
  saveDirectory : Option String := none
  logFile : Option String := none
deriving DecidableEq

/-- Whether an argument was given. -/
def Given.has (g : Given) : Argument → Bool
  | .program => g.program.isSome
  | .frameRate => g.frameRate.isSome
  | .speed => g.speed.isSome
  | .clip => g.clip
  | .frames => g.frames.isSome
  | .saveDirectory => g.saveDirectory.isSome
  | .logFile => g.logFile.isSome
  | .help => false

/-- Puts the value of an argument. A flag has no use for it. -/
def Given.put (g : Given) (a : Argument) (text : String) : Except Refusal Given :=
  let number (f : Nat → Given) : Except Refusal Given :=
    match readNumber text with
    | .error reason => .error (.badNumber text a reason)
    | .ok n => .ok (f n)
  let path (f : String → Given) : Except Refusal Given :=
    if text = "" then .error (.missingValue a) else .ok (f text)
  match a with
  | .program => path fun p => { g with program := some p }
  | .frameRate => number fun n => { g with frameRate := some n }
  | .speed => number fun n => { g with speed := some n }
  | .frames => number fun n => { g with frames := some n }
  | .saveDirectory => path fun p => { g with saveDirectory := some p }
  | .logFile => path fun p => { g with logFile := some p }
  | .clip => .ok { g with clip := true }
  | .help => .ok g

/-- Accepts an argument. A value that is missing comes before an argument that
    was given already, and both before a bad value. -/
def Given.accept (g : Given) (a : Argument) (value : Option String) : Except Refusal Given :=
  if a.placeholder?.isSome ∧ value.isNone then .error (.missingValue a)
  else if g.has a then .error (.repeated a)
  else g.put a (value.getD "")

/-! ## Words -/

/-- What a word looks like. -/
inductive Word where
  /-- Two dashes alone: all that follows is plain. -/
  | divider
  | long (name : String) (value : Option String)
  | short (letter : Char)
  | plain

def Word.ofText (text : String) : Word :=
  match text.toList with
  | ['-', '-'] => .divider
  | '-' :: '-' :: rest =>
    let name := rest.takeWhile (· ≠ '=')
    let value := match rest.dropWhile (· ≠ '=') with
      | [] => none
      | _ :: value => some (String.ofList value)
    .long (String.ofList name) value
  | '-' :: letter :: _ => .short letter
  | _ => .plain

structure State where
  given : Given := {}
  /-- The argument that was named last, with its value once it is there. -/
  pending : Option (Argument × Option String) := none
  /-- Whether there was a word for the program. -/
  placed : Bool := false

/-- Judges the argument that was named last. -/
def State.settle (s : State) : Except Refusal State :=
  match s.pending with
  | none => .ok s
  | some (a, value) => (s.given.accept a value).map fun g => { s with given := g, pending := none }

/-- A word for the program. There is only one. -/
def State.place (s : State) (text : String) : Except Refusal State :=
  if s.placed then .error (.unexpected text)
  else s.settle.map fun s => { s with pending := some (.program, some text), placed := true }

/-- A word of a name. -/
def State.name (s : State) (name : String) (value : Option String) : Except Refusal State :=
  match Argument.ofName? name with
  | none => .error (.unexpected ("--" ++ name))
  | some a =>
    match a.placeholder?, value with
    | some _, some _ => do
      let s ← s.settle
      let g ← s.given.accept a value
      return { s with given := g }
    | some _, none => s.settle.map fun s => { s with pending := some (a, none) }
    | none, some text => .error (.surplusValue text a)
    | none, none => do
      let s ← s.settle
      if a = .help then .error (.help true)
      else
        let g ← s.given.accept a none
        return { s with given := g }

/-- A word of letters. Only one letter means something. -/
def State.letter (s : State) (letter : Char) : Except Refusal State :=
  if letter = 'h' then s.settle.bind fun _ => .error (.help false)
  else .error (.unexpected (String.ofList ['-', letter]))

/-- One word before the divider, if it is not that. -/
def State.word (s : State) (text : String) : Word → Except Refusal State
  | .divider => .ok s
  | .long name value => s.name name value
  | .short letter => s.letter letter
  | .plain =>
    match s.pending with
    | some (a, none) => .ok { s with pending := some (a, some text) }
    | _ => s.place text

def readPlain (s : State) : List String → Except Refusal State
  | [] => s.settle
  | text :: more => (s.place text).bind fun s => readPlain s more

def readWords (s : State) : List String → Except Refusal State
  | [] => s.settle
  | text :: more =>
    match Word.ofText text with
    | .divider => readPlain s more
    | word => (s.word text word).bind fun s => readWords s more

/-- The options that a command line asks for. -/
def Options.ofWords (words : List String) : Except Refusal Options :=
  match readWords {} words with
  | .error refusal => .error refusal
  | .ok s =>
    match s.given.program with
    | none => .error .missingProgram
    | some path => .ok {
        programPath := path
        frameRate := s.given.frameRate.getD 60
        speed := s.given.speed.getD 700
        clip := s.given.clip
        frames := s.given.frames
        saveDirectory := s.given.saveDirectory.getD "save"
        logFile := s.given.logFile }

end Chip8.CommandLine
