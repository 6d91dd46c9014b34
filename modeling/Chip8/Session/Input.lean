import Chip8.Session.Keys
import Chip8.Terminal.Escape

/-! # Keyboard input

A terminal sends symbols as themselves and other keys as escape sequences. The
escape key is an escape character that nothing follows. -/

namespace Chip8

/-- What came before the next character: nothing that matters, an escape
    character, or the beginning of a sequence with its body backwards. -/
inductive InputState where
  | plain
  | escaped
  | within (body : List Char)
deriving DecidableEq

namespace InputState

def escapeKey : KeyEvent := { code := .escape }

/-- The function key of a sequence number. The numbers have gaps. -/
def functionKey? (number : Nat) : Option Nat :=
  if 11 ≤ number ∧ number ≤ 15 then some (number - 10)
  else if 17 ≤ number ∧ number ≤ 21 then some (number - 11)
  else if 23 ≤ number ∧ number ≤ 24 then some (number - 12)
  else none

/-- The key of a sequence. -/
def keyOfSequence (body : List Char) : KeyCode :=
  match body.reverse with
  | [a, b, '~'] =>
    if a.isDigit ∧ b.isDigit then
      match functionKey? ((a.toNat - '0'.toNat) * 10 + (b.toNat - '0'.toNat)) with
      | some number => .function number
      | none => .other
    else .other
  | _ => .other

/-- A symbol by itself. Control and a letter arrive as one of the first
    characters. -/
def symbolEvent (c : Char) : KeyEvent :=
  if 1 ≤ c.toNat ∧ c.toNat ≤ 26 ∧ c ≠ '\t' ∧ c ≠ '\r' then
    { code := .symbol (Char.ofNat (c.toNat + 96)), control := true }
  else if c.toNat < 32 ∨ c.toNat = 127 then { code := .other }
  else { code := .symbol c }

/-- Takes one more character. -/
def next (state : InputState) (c : Char) : InputState × List KeyEvent :=
  match state with
  | plain => if c = Terminal.escape then (escaped, []) else (plain, [symbolEvent c])
  | escaped =>
    if c = Terminal.escape then (escaped, [escapeKey])
    else if c = '[' ∨ c = 'O' then (within [], [])
    else (plain, [{ symbolEvent c with alt := true }])
  | within body =>
    if '@' ≤ c ∧ c ≤ '~' then (plain, [{ code := keyOfSequence (c :: body) }])
    else (within (c :: body), [])

/-- The events of characters that arrived together. -/
def events (state : InputState) : List Char → List KeyEvent
  | [] => if state = escaped then [escapeKey] else []
  | c :: more =>
    let (after, now) := state.next c
    now ++ after.events more

end InputState

/-- The events of bytes that arrived together. Bytes that are no text are lost. -/
def keyEvents (bytes : ByteArray) : List KeyEvent :=
  match String.fromUTF8? bytes with
  | some text => InputState.plain.events text.toList
  | none => []

end Chip8
