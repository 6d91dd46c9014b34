import Chip8.File.Store
import Chip8.Session

/-! # Saving and loading

A session saves the state of its machine in its file and loads it from there.
What comes of it is shown in the status line. -/

namespace Chip8

/-- Why a state was not saved. -/
inductive SaveTrouble where
  | noDirectory (cause : File.Fault)
  | notWritten (cause : File.Fault)
deriving DecidableEq

def SaveTrouble.message : SaveTrouble → String
  | .noDirectory cause => s!"Failed to create save directory: {cause.message}"
  | .notWritten cause => s!"Failed to write save-state: {cause.message}"

/-- Why a state was not loaded. -/
inductive LoadTrouble where
  | notRead (cause : File.Fault)
  | notDecoded (cause : Fault)
  | notRestored (cause : Fault)
deriving DecidableEq

def LoadTrouble.message : LoadTrouble → String
  | .notRead cause => s!"Failed to read save-state: {cause.message}"
  | .notDecoded cause => s!"Failed to decode save-state: {cause.message}"
  | .notRestored cause => s!"Failed to restore save-state: {cause.message}"

namespace Session

/-- The text that a session saves. -/
def saveText (s : Session) : String := s.ticker.machine.saveState.toJson

/-- The session after its text was put into its file, or was not. -/
def afterSave (s : Session) (result : Except SaveTrouble Unit) : Session × List Notice :=
  match result with
  | .ok () => ({ s with status := s!"Saved to {s.savePath}" }, [.fileSaved s.savePath])
  | .error trouble => ({ s with status := trouble.message }, [])

/-- The state that the contents of a file hold. -/
def stateOf (contents : Except File.Fault ByteArray) : Except LoadTrouble SaveState :=
  match contents with
  | .error cause => .error (.notRead cause)
  | .ok bytes =>
    match String.fromUTF8? bytes with
    | none => .error (.notRead .notText)
    | some text =>
      match SaveState.ofJson text with
      | .error cause => .error (.notDecoded cause)
      | .ok state => .ok state

/-- The session with its machine in a saved state. No key waits any more. -/
def restore (s : Session) (state : SaveState) : Except LoadTrouble (Session × List Notice) :=
  let outcome := s.ticker.machine.restore state
  match outcome.result with
  | .error cause => .error (.notRestored cause)
  | .ok () =>
    .ok ({ s.withMachine outcome.machine with
            shown := outcome.machine.display
            pending := Vector.replicate 16 none }, outcome.notices)

/-- The session after its file was read. -/
def afterRead (s : Session) (contents : Except File.Fault ByteArray) : Session × List Notice :=
  match (stateOf contents).bind s.restore with
  | .error trouble => ({ s with status := trouble.message }, [])
  | .ok (after, notices) =>
    ({ after with status := s!"Loaded {s.savePath}" }, notices ++ [.fileLoaded s.savePath])

variable {m : Type → Type} [Monad m]

/-- Puts the text of a session into its file. -/
def writeText (s : Session) (files : File.Store m) : m (Except SaveTrouble Unit) := do
  let directory := (File.Path.directory? s.savePath.toList).getD []
  match ← files.makeDirectories (String.ofList directory) with
  | .error cause => return .error (.noDirectory cause)
  | .ok () =>
    match ← files.write s.savePath s.saveText.toUTF8 with
    | .error cause => return .error (.notWritten cause)
    | .ok () => return .ok ()

/-- Saves the state of the machine. -/
def save (s : Session) (files : File.Store m) : m (Session × List Notice) := do
  let result ← s.writeText files
  let (after, notices) := s.afterSave result
  return (after, s.ticker.machine.save.notices ++ notices)

/-- Loads the state of the machine. -/
def load (s : Session) (files : File.Store m) : m (Session × List Notice) := do
  return s.afterRead (← files.read s.savePath)

end Session

end Chip8
