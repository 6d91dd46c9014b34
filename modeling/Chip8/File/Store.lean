import Chip8.File.Fault

/-! # File stores

The file operations that a program needs. Each answers in some monad, so a
program can run on real files as well as on files in memory. -/

namespace Chip8.File

structure Store (m : Type → Type) where
  /-- The whole contents of a file. -/
  read : String → m (Except Fault ByteArray)
  /-- Puts the whole contents of a file, which is made if need be. -/
  write : String → ByteArray → m (Except Fault Unit)
  /-- Makes a directory and those above it that are missing. -/
  makeDirectories : String → m (Except Fault Unit)

end Chip8.File
