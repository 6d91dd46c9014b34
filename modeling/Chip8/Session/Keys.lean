import Chip8.Session.Files

/-! # Keyboard events

What the keys of the keyboard do in a session. Symbols press the keys that they
stand for, whatever the terminal says happened to them; F5 and F9 save and load
when they go down; Escape and Ctrl+C stop. -/

namespace Chip8

inductive KeyCode where
  | escape
  | function (number : Nat)
  | symbol (c : Char)
  | other
deriving DecidableEq

/-- What a terminal says happened to a key. -/
inductive KeyAction where
  | press
  | hold
  | release
deriving DecidableEq

structure KeyEvent where
  code : KeyCode
  control : Bool := false
  shift : Bool := false
  alt : Bool := false
  action : KeyAction := .press
deriving DecidableEq

/-- What a session is asked to do. -/
inductive Command where
  | stop
  | save
  | load
  | hold (key : Key)
deriving DecidableEq

/-- What an event asks for. Ctrl+C comes before the symbol c, which is a key. -/
def KeyEvent.command? (e : KeyEvent) : Option Command :=
  match e.code with
  | .symbol c => if c = 'c' ∧ e.control then some .stop else (keyOf? c).map .hold
  | .escape => some .stop
  | .function n =>
    if e.action ≠ .press then none
    else if n = 5 then some .save
    else if n = 9 then some .load
    else none
  | .other => none

namespace Session

variable {m : Type → Type} [Monad m]

/-- Stops the ticker. -/
def stop (s : Session) : Session × List Notice :=
  let (ticker, notices) := s.ticker.stop
  ({ s with ticker := ticker }, notices)

/-- Does what an event asks for. -/
def onKey (s : Session) (files : File.Store m) (now : Nat) (e : KeyEvent) :
    m (Session × List Notice) :=
  match e.command? with
  | some .stop => return s.stop
  | some .save => s.save files
  | some .load => s.load files
  | some (.hold key) => return (s.hold now key, [])
  | none => return (s, [])

end Session

end Chip8
