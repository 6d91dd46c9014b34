/-! # Reports

How a run of the program ends: an exit code and the lines for the two outputs. -/

namespace Chip8.CommandLine

structure Report where
  code : UInt8
  output : List String := []
  errors : List String := []
deriving DecidableEq

/-- A cause in a report: its lines under each other, behind a margin or its
    number. -/
def causeLines (number : Option Nat) (message : String) : List String :=
  let first := match number with
    | some n => String.ofList ((Nat.toDigits 10 n).leftpad 5 ' ') ++ ": "
    | none => "    "
  let next := if number.isSome then "       " else "    "
  (message.splitOn "\n").zipIdx.map fun (line, k) => (if k = 0 then first else next) ++ line

/-- A failure with its causes, outermost first. Causes have numbers when there
    is more than one. -/
def failureLines (context : String) (causes : List String) : List String :=
  let numbered := 1 < causes.length
  ("Error: " ++ context).splitOn "\n" ++ ["", "Caused by:"] ++
    (causes.zipIdx.flatMap fun (cause, k) => causeLines (if numbered then some k else none) cause)

def Report.failure (context : String) (causes : List String) : Report :=
  { code := 1, errors := failureLines context causes }

end Chip8.CommandLine
