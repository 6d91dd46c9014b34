import Chip8.Settings

/-! # Options

What can be asked for on the command line, and every way of asking wrongly. -/

namespace Chip8.CommandLine

inductive Argument where
  | program
  | frameRate
  | speed
  | clip
  | frames
  | saveDirectory
  | logFile
  | help
deriving DecidableEq

namespace Argument

/-- The arguments that have a name. -/
def named : List Argument :=
  [frameRate, speed, clip, frames, saveDirectory, logFile, help]

def name : Argument → String
  | program => ""
  | frameRate => "fps"
  | speed => "ops-per-second"
  | clip => "clip-sprites"
  | frames => "frames"
  | saveDirectory => "save-dir"
  | logFile => "log-file"
  | help => "help"

/-- How usage shows the value of an argument. Flags have none. -/
def placeholder? : Argument → Option String
  | program => some "<ROM_PATH>"
  | frameRate => some "<FPS>"
  | speed => some "<OPS_PER_SECOND>"
  | frames => some "<N>"
  | saveDirectory => some "<SAVE_DIR>"
  | logFile => some "<PATH>"
  | clip | help => none

/-- An argument as usage shows it. -/
def usage (a : Argument) : String :=
  let words := (if a = program then [] else ["--" ++ a.name]) ++ a.placeholder?.toList
  String.intercalate " " words

def ofName? (name : String) : Option Argument := named.find? (·.name == name)

end Argument

/-- What is wrong with the text of a number. -/
inductive NumberFault where
  | empty
  | notDigit
  | tooLarge
  | tooSmall
  | outside (value : Int)
deriving DecidableEq

/-- The largest number that an option takes. -/
def numberLimit : Nat := 0xFFFFFFFF

def NumberFault.message : NumberFault → String
  | empty => "cannot parse integer from empty string"
  | notDigit => "invalid digit found in string"
  | tooLarge => "number too large to fit in target type"
  | tooSmall => "number too small to fit in target type"
  | outside value => s!"{value} is not in 0..={numberLimit}"

/-- Why a command line is not followed. -/
inductive Refusal where
  | unexpected (word : String)
  | missingProgram
  | missingValue (argument : Argument)
  | badNumber (text : String) (argument : Argument) (reason : NumberFault)
  | repeated (argument : Argument)
  | surplusValue (text : String) (argument : Argument)
  /-- Help was asked for, at length or in short. -/
  | help (long : Bool)
deriving DecidableEq

/-- What the program is to do. -/
structure Options where
  programPath : String
  frameRate : Nat := 60
  speed : Nat := 700
  clip : Bool := false
  /-- Run so many frames and print the display. -/
  frames : Option Nat := none
  saveDirectory : String := "save"
  logFile : Option String := none
deriving DecidableEq

namespace Options

def settings (o : Options) : Settings where
  frameRate := o.frameRate
  speed := o.speed
  edge := if o.clip then .clip else .spill

/-- Whether notices go to the screen: only when nothing else is drawn there. -/
def logsToScreen (o : Options) : Bool := o.logFile.isNone && o.frames.isSome

end Options

end Chip8.CommandLine
