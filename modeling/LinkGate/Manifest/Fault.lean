import LinkGate.Document
import LinkGate.Files.Basic
import LinkGate.Text.Quoted

/-!
# What can be wrong with a list of documents

A list of documents is a JSON text. A fault says what is wrong with the text and where: by the line
and the number of bytes on it that were read by then.
-/

namespace LinkGate.Manifest

/-- A value that stands where another kind of value has to be. -/
inductive Found where
  | null
  | boolean (value : Bool)
  | integer (text : String)
  | floatingPoint (text : String)
  | string (value : List Char)
  | sequence
  | map
deriving DecidableEq, Repr

inductive Wanted where
  | list
  | entry
  | path
  | boolean
deriving DecidableEq, Repr

inductive Field where
  | path
  | allowLocal
deriving DecidableEq, Repr

inductive Problem where
  | endInValue
  | endInList
  | endInObject
  | endInString
  | expectedColon
  | expectedListEnd
  | expectedObjectEnd
  | expectedWord
  | expectedValue
  | invalidEscape
  | invalidNumber
  | numberOutOfRange
  | loneSurrogate
  | missingSurrogate
  | controlCharacter
  | keyNotString
  | trailingComma
  | trailingCharacters
  | missingField (field : Field)
  | duplicateField (field : Field)
  /-- An entry written as a list has no items. -/
  | emptyEntry
  | wrongKind (found : Found) (wanted : Wanted)
deriving DecidableEq, Repr

def Field.name : Field → String
  | path => "path"
  | allowLocal => "allow_local"

def Found.text : Found → String
  | null => "null"
  | boolean value => "boolean \x60" ++ toString value ++ "\x60"
  | integer text => "integer \x60" ++ text ++ "\x60"
  | floatingPoint text => "floating point \x60" ++ text ++ "\x60"
  | string value => "string " ++ Text.quoted value
  | sequence => "sequence"
  | map => "map"

def Wanted.text : Wanted → String
  | list => "a sequence"
  | entry => "struct DocEntry"
  | path => "path string"
  | boolean => "a boolean"

def Problem.text : Problem → String
  | endInValue => "EOF while parsing a value"
  | endInList => "EOF while parsing a list"
  | endInObject => "EOF while parsing an object"
  | endInString => "EOF while parsing a string"
  | expectedColon => "expected \x60:\x60"
  | expectedListEnd => "expected \x60,\x60 or \x60]\x60"
  | expectedObjectEnd => "expected \x60,\x60 or \x60\x7d\x60"
  | expectedWord => "expected ident"
  | expectedValue => "expected value"
  | invalidEscape => "invalid escape"
  | invalidNumber => "invalid number"
  | numberOutOfRange => "number out of range"
  | loneSurrogate => "lone leading surrogate in hex escape"
  | missingSurrogate => "unexpected end of hex escape"
  | controlCharacter => "control character (\\u0000-\\u001F) found while parsing a string"
  | keyNotString => "key must be a string"
  | trailingComma => "trailing comma"
  | trailingCharacters => "trailing characters"
  | missingField field => "missing field \x60" ++ field.name ++ "\x60"
  | duplicateField field => "duplicate field \x60" ++ field.name ++ "\x60"
  | emptyEntry => "invalid length 0, expected struct DocEntry with 2 elements"
  | wrongKind found wanted => "invalid type: " ++ found.text ++ ", expected " ++ wanted.text

/-- A problem with what is left of the text where it was noticed, and how many bytes of that were
read, too. -/
structure Fault where
  problem : Problem
  rest : List Char
  extra : Nat
deriving DecidableEq, Repr

def Fault.here (problem : Problem) (rest : List Char) : Fault :=
  ⟨problem, rest, 0⟩

/-- A problem that is noticed at the next character, if there is one. -/
def Fault.atNext (problem : Problem) (rest : List Char) : Fault :=
  ⟨problem, rest, if rest.isEmpty then 0 else 1⟩

def byteCount (s : List Char) : Nat :=
  s.foldl (fun n c => n + c.utf8Size) 0

/-- The line after some bytes of a text, counted from one, and how many of the bytes are on it. -/
def position (bytes : List UInt8) : Nat × Nat :=
  bytes.foldl (fun ((line, column) : Nat × Nat) (byte : UInt8) =>
    if byte = 10 then (line + 1, 0) else (line, column + 1)) (1, 0)

def Fault.position (f : Fault) (text : String) : Nat × Nat :=
  Manifest.position
    (text.toUTF8.toList.take (text.utf8ByteSize - byteCount f.rest + f.extra))

inductive Error where
  | unreadable (cause : ReadError)
  | malformed (problem : Problem) (line column : Nat)
  | empty
deriving DecidableEq, Repr

def Error.message : Error → String
  | unreadable cause => cause.message
  | malformed problem line column =>
    problem.text ++ " at line " ++ toString line ++ " column " ++ toString column
  | empty => "manifest lists no documents"

end LinkGate.Manifest
