import LinkGate.CommandLine.Switch

/-!
# What ends a command line

A command line that is not one for a run asks about the program or is faulty. A fault is told with a
hint at how the program is used.
-/

namespace LinkGate.CommandLine

/-- How a switch is used, as far as a hint shows it. -/
structure Usage where
  /-- Switches that are shown by themselves. -/
  single : List Switch
  /-- Whether the switches for runs are shown, of which some were given. -/
  choices : Bool
deriving DecidableEq, Repr

def Usage.general : Usage := ⟨[], false⟩

def Usage.words (u : Usage) : List String :=
  u.single.map Switch.text ++
    if u.choices then ["<" ++ "|".intercalate (Switch.choices.map Switch.text) ++ ">"] else []

def Usage.text (u : Usage) : String :=
  "Usage: doclinks " ++ match u.words with
    | [] => "[OPTIONS]"
    | words => " ".intercalate words

inductive Refusal where
  /-- Help is asked for, in full or in short. -/
  | help (isLong : Bool)
  | version
  /-- An argument is no switch; another one may be meant. -/
  | unknownArgument (argument : String) (similar : Option Switch) (usage : Usage)
  /-- A switch is given twice. -/
  | repeated (switch : Switch)
  /-- The value of a switch is missing. -/
  | missingValue (switch : Switch)
  /-- A switch without a value has one. -/
  | unexpectedValue (switch : Switch) (value : String) (usage : Usage)
  | invalidValue (switch : Switch) (value reason : String)
deriving DecidableEq, Repr

namespace Refusal

def sentence : Refusal → String
  | help _ => ""
  | version => ""
  | unknownArgument argument _ _ => "unexpected argument '" ++ argument ++ "' found"
  | repeated switch => "the argument '" ++ switch.text ++ "' cannot be used multiple times"
  | missingValue switch => "a value is required for '" ++ switch.text ++ "' but none was supplied"
  | unexpectedValue switch value _ =>
    "unexpected value '" ++ value ++ "' for '" ++ switch.text ++ "' found; no more were expected"
  | invalidValue switch value reason =>
    "invalid value '" ++ value ++ "' for '" ++ switch.text ++ "': " ++ reason

def hints : Refusal → List String
  | unknownArgument _ similar usage =>
    ((similar.map fun s => "  tip: a similar argument exists: '--" ++ s.name ++ "'").toList) ++
      [usage.text]
  | repeated _ => [Usage.general.text]
  | unexpectedValue _ _ usage => [usage.text]
  | _ => []

def text (r : Refusal) : String :=
  "\n\n".intercalate (("error: " ++ r.sentence) :: r.hints ++
    ["For more information, try '--help'."]) ++ "\n"

end Refusal

end LinkGate.CommandLine
