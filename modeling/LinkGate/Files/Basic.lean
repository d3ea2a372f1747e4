import LinkGate.Path

/-!
# Files

What a run sees of a file system: whether a path leads to anything, and the bytes of files.
-/

namespace LinkGate

inductive ReadError where
  | notFound
  /-- A path goes on after a file. -/
  | notADirectory
  | isADirectory
  | nameTooLong
  /-- Links lead to links without an end. -/
  | tooManyLinks
  /-- A path holds the character that ends paths for the system. -/
  | nulInPath
  | notUtf8
deriving DecidableEq, Repr

def ReadError.message : ReadError → String
  | notFound => "No such file or directory (os error 2)"
  | notADirectory => "Not a directory (os error 20)"
  | isADirectory => "Is a directory (os error 21)"
  | nameTooLong => "File name too long (os error 36)"
  | tooManyLinks => "Too many levels of symbolic links (os error 40)"
  | nulInPath => "file name contained an unexpected NUL byte"
  | notUtf8 => "stream did not contain valid UTF-8"

/-- A file system at one moment. -/
structure Files where
  /-- The bytes of a file. -/
  read : Path → Except ReadError ByteArray
  /-- Whether a path leads to a file or a directory. -/
  has : Path → Bool

def Files.readText (files : Files) (path : Path) : Except ReadError String :=
  match files.read path with
  | .error e => .error e
  | .ok bytes =>
    match String.fromUTF8? bytes with
    | some text => .ok text
    | none => .error .notUtf8

end LinkGate
