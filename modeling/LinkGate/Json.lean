/-!
# JSON

Values as they are written: fields keep their order, and numbers count things. There are two
layouts, one without any blanks and one with a line for each item and field.
-/

namespace LinkGate

inductive Json where
  | null
  | bool (value : Bool)
  | number (value : Nat)
  | string (value : String)
  | array (items : List Json)
  | object (fields : List (String × Json))
deriving Repr, Inhabited

namespace Json

/-- How a character stands between quotes. Quotes, backslashes and control characters are escaped,
the latter by a letter if they have one. -/
def escape (c : Char) : List Char :=
  match c with
  | '"' => ['\\', '"']
  | '\\' => ['\\', '\\']
  | '\x08' => ['\\', 'b']
  | '\x0c' => ['\\', 'f']
  | '\n' => ['\\', 'n']
  | '\r' => ['\\', 'r']
  | '\t' => ['\\', 't']
  | _ =>
    if c.toNat < 0x20 then
      ['\\', 'u', '0', '0', Nat.digitChar (c.toNat / 16), Nat.digitChar (c.toNat % 16)]
    else [c]

def quote (s : String) : List Char :=
  '"' :: s.toList.flatMap escape ++ ['"']

/-- A line end and the blanks that begin the next line. -/
def newline (depth : Nat) : List Char :=
  '\n' :: List.replicate (2 * depth) ' '

mutual

def compact : Json → List Char
  | null => "null".toList
  | bool value => (toString value).toList
  | number value => (toString value).toList
  | string value => quote value
  | array items => '[' :: compactItems items ++ [']']
  | object fields => '\x7b' :: compactFields fields ++ ['\x7d']

def compactItems : List Json → List Char
  | [] => []
  | [item] => compact item
  | item :: rest => compact item ++ ',' :: compactItems rest

def compactFields : List (String × Json) → List Char
  | [] => []
  | [(name, value)] => quote name ++ ':' :: compact value
  | (name, value) :: rest => quote name ++ ':' :: compact value ++ ',' :: compactFields rest

end

mutual

/-- The layout with a line for each item and field, indented by two blanks for each level. -/
def pretty (depth : Nat) : Json → List Char
  | array (item :: rest) =>
    '[' :: prettyItems (depth + 1) (item :: rest) ++ newline depth ++ [']']
  | object (field :: rest) =>
    '\x7b' :: prettyFields (depth + 1) (field :: rest) ++ newline depth ++ ['\x7d']
  | array [] => ['[', ']']
  | object [] => ['\x7b', '\x7d']
  | null => compact null
  | bool value => compact (bool value)
  | number value => compact (number value)
  | string value => compact (string value)

def prettyItems (depth : Nat) : List Json → List Char
  | [] => []
  | [item] => newline depth ++ pretty depth item
  | item :: rest => newline depth ++ pretty depth item ++ ',' :: prettyItems depth rest

def prettyFields (depth : Nat) : List (String × Json) → List Char
  | [] => []
  | [(name, value)] => newline depth ++ quote name ++ ':' :: ' ' :: pretty depth value
  | (name, value) :: rest =>
    newline depth ++ quote name ++ ':' :: ' ' :: pretty depth value ++
      ',' :: prettyFields depth rest

end

def strings (values : List String) : Json :=
  .array (values.map .string)

def compactText (value : Json) : String :=
  String.ofList value.compact

def prettyText (value : Json) : String :=
  String.ofList (value.pretty 0)

end Json

end LinkGate
