import Chip8.CommandLine.Options
import Chip8.Terminal.Plain

/-! # Help

The texts that explain the command line, and the first line of every refusal. -/

namespace Chip8.CommandLine

def summary : String := "CHIP-8 interpreter for the terminal"

/-- The name of the program, as its usage shows it. -/
def programName : String := "emu"

/-- What an argument is for, and its default. -/
def Argument.about : Argument → String × Option String
  | program => ("Path to the CHIP-8 ROM file", none)
  | frameRate => ("Frame ticks per second", some "60")
  | speed => ("Opcodes executed per second", some "700")
  | clip =>
    ("Drop sprite pixels past the right edge instead of wrapping them onto the next row", none)
  | frames =>
    ("Run this many frames without the terminal UI, print the display and exit", none)
  | saveDirectory => ("Directory for save-state files", some "save")
  | logFile => ("Write log output (filtered by RUST_LOG) to this file", none)
  | help => ("Print help", none)

def usageLine : String := "Usage: " ++ programName ++ " [OPTIONS] " ++ Argument.program.usage

/-- The margin of an explanation. -/
def margin : String := "          "

/-- The arguments by name other than help. -/
def explained : List Argument := Argument.named.filter (· ≠ .help)

/-- An option explained at length. A blank line stands before its default. -/
def longEntry (a : Argument) : List String :=
  let (about, default?) := a.about
  ["      " ++ a.usage, margin ++ about] ++
    (match default? with
      | some value => [margin, margin ++ "[default: " ++ value ++ "]"]
      | none => []) ++
    [""]

/-- An option explained in short. -/
def shortEntry (a : Argument) : List String :=
  let (about, default?) := a.about
  let note := match default? with
    | some value => " [default: " ++ value ++ "]"
    | none => ""
  ["      " ++ a.usage, margin ++ about ++ note]

def longHelp : List String :=
  [summary ++ ".", "",
   "Keys 1-4, Q-R, A-F, Z-V map to CHIP-8 keys. F5 saves state, F9 restores it, Escape exits.", "",
   usageLine, "", "Arguments:", "  " ++ Argument.program.usage,
   margin ++ Argument.program.about.1, "", "Options:"] ++
    explained.flatMap longEntry ++
    ["  -h, --help", margin ++ "Print help (see a summary with '-h')"]

def shortHelp : List String :=
  [summary, "", usageLine, "", "Arguments:",
   "  " ++ Argument.program.usage ++ "  " ++ Argument.program.about.1, "", "Options:"] ++
    explained.flatMap shortEntry ++
    ["  -h, --help", margin ++ "Print help (see more with '--help')"]

/-- Help at length or in short. -/
def helpLines (long : Bool) : List String := if long then longHelp else shortHelp

open Terminal (plain)

/-- What a refusal says. Of the words that are refused it shows no control
    sequences. -/
def Refusal.message : Refusal → String
  | unexpected word => s!"error: unexpected argument '{plain word}' found"
  | missingProgram => "error: the following required arguments were not provided:"
  | missingValue a => s!"error: a value is required for '{a.usage}' but none was supplied"
  | badNumber text a reason =>
    s!"error: invalid value '{plain text}' for '{a.usage}': {reason.message}"
  | repeated a => s!"error: the argument '{a.usage}' cannot be used multiple times"
  | surplusValue text a =>
    s!"error: unexpected value '{plain text}' for '{a.usage}' found; no more were expected"
  | help long => (helpLines long).headD ""

/-- The first line of what a refusal says. -/
def Refusal.headline (r : Refusal) : String :=
  String.ofList (r.message.toList.takeWhile (· ≠ '\n'))

end Chip8.CommandLine
