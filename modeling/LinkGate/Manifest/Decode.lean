import LinkGate.Manifest.Token

/-!
# Reading a list of documents

The list is an array of entries. An entry is an object with the path of a document and, if only full
addresses are allowed in it, a field that says so; or an array of the two. Fields with other names
are skipped.
-/

namespace LinkGate.Manifest

/-! ## Single values -/

/-- The fault of a value of another kind than the one that is wanted. A value that is malformed is
reported as such. -/
def wrongKind (wanted : Wanted) (s : List Char) : Fault :=
  let report (found : Found) (rest : List Char) : Fault := .here (.wrongKind found wanted) rest
  let settle (r : Except Fault (Found × List Char)) : Fault :=
    match r with
    | .error f => f
    | .ok (found, rest) => report found rest
  match s with
  | 'n' :: rest => settle ((word "ull".toList rest).map (.null, ·))
  | 't' :: rest => settle ((word "rue".toList rest).map (.boolean true, ·))
  | 'f' :: rest => settle ((word "alse".toList rest).map (.boolean false, ·))
  | '-' :: rest => settle (number false rest)
  | '"' :: rest => settle ((string rest).map fun (value, rest) => (.string value, rest))
  | '[' :: _ => report .sequence s
  | '\x7b' :: _ => report .map s
  | c :: _ => if c.isDigit then settle (number true s) else .atNext .expectedValue s
  | [] => .atNext .endInValue []

def path (s : List Char) : Except Fault (Path × List Char) :=
  match skipBlanks s with
  | '"' :: rest => (string rest).map fun (value, rest) => (⟨String.ofList value⟩, rest)
  | s => .error (wrongKind .path s)

def allowLocal (s : List Char) : Except Fault (Bool × List Char) :=
  match skipBlanks s with
  | 't' :: rest => (word "rue".toList rest).map (true, ·)
  | 'f' :: rest => (word "alse".toList rest).map (false, ·)
  | s => .error (wrongKind .boolean s)

/-! ## Entries -/

/-- What comes next in a list: nothing more, or another item. A comma comes before every item but
the first. -/
def nextItem (isFirst : Bool) (s : List Char) : Except Fault (Bool × List Char) :=
  match skipBlanks s with
  | [] => .error (.atNext .endInList [])
  | ']' :: rest => .ok (false, rest)
  | c :: rest =>
    if isFirst then .ok (true, c :: rest)
    else if c = ',' then
      match skipBlanks rest with
      | [] => .error (.atNext .endInValue [])
      | ']' :: rest => .error (.atNext .trailingComma (']' :: rest))
      | rest => .ok (true, rest)
    else .error (.atNext .expectedListEnd (c :: rest))

def listEnd (s : List Char) : Except Fault (List Char) :=
  match skipBlanks s with
  | [] => .error (.atNext .endInList [])
  | ']' :: rest => .ok rest
  | ',' :: rest =>
    match skipBlanks rest with
    | ']' :: rest => .error (.atNext .trailingComma (']' :: rest))
    | rest => .error (.atNext .trailingCharacters rest)
  | rest => .error (.atNext .trailingCharacters rest)

def listEntry (s : List Char) : Except Fault (Document × List Char) := do
  match ← nextItem true s with
  | (false, rest) => .error (.here .emptyEntry rest)
  | (true, s) =>
    let (path, s) ← path s
    match ← nextItem false s with
    | (false, rest) => .ok (⟨path, true⟩, rest)
    | (true, s) =>
      let (allowLocal, s) ← allowLocal s
      let rest ← listEnd s
      .ok (⟨path, allowLocal⟩, rest)

/-- What comes next in an object: nothing more, or the opening quote of a key, which is left out. -/
def nextKey (isFirst : Bool) (s : List Char) : Except Fault (Bool × List Char) :=
  match skipBlanks s with
  | [] => .error (.atNext .endInObject [])
  | '\x7d' :: rest => .ok (false, rest)
  | c :: rest =>
    if isFirst then
      if c = '"' then .ok (true, rest) else .error (.atNext .keyNotString (c :: rest))
    else if c = ',' then
      match skipBlanks rest with
      | [] => .error (.atNext .endInValue [])
      | '"' :: rest => .ok (true, rest)
      | '\x7d' :: rest => .error (.atNext .trailingComma ('\x7d' :: rest))
      | rest => .error (.atNext .keyNotString rest)
    else .error (.atNext .expectedObjectEnd (c :: rest))

def colon (s : List Char) : Except Fault (List Char) :=
  match skipBlanks s with
  | [] => .error (.atNext .endInObject [])
  | ':' :: rest => .ok rest
  | rest => .error (.atNext .expectedColon rest)

def Field.ofKey? (key : List Char) : Option Field :=
  if key = Field.path.name.toList then some .path
  else if key = Field.allowLocal.name.toList then some .allowLocal
  else none

structure Fields where
  path : Option Path
  allowLocal : Option Bool
deriving DecidableEq, Repr

def Fields.has (fields : Fields) : Field → Bool
  | .path => fields.path.isSome
  | .allowLocal => fields.allowLocal.isSome

/-- A field that comes twice is noticed at its key, and an object that ends there is still read. -/
def duplicate (field : Field) (s : List Char) : Fault :=
  match skipBlanks s with
  | '\x7d' :: rest => .here (.duplicateField field) rest
  | rest => .here (.duplicateField field) rest

def fieldValue (fields : Fields) (key s : List Char) : Except Fault (Fields × List Char) :=
  match Field.ofKey? key with
  | none => do
    let rest ← skipAny (← colon s)
    .ok (fields, rest)
  | some field =>
    if fields.has field then .error (duplicate field s)
    else do
      let s ← colon s
      match field with
      | .path =>
        let (value, rest) ← path s
        .ok ({ fields with path := some value }, rest)
      | .allowLocal =>
        let (value, rest) ← allowLocal s
        .ok ({ fields with allowLocal := some value }, rest)

/-- The fields of an entry to its end. Each round reads at least one character. -/
def objectEntry : (fuel : Nat) → (isFirst : Bool) → Fields → List Char →
    Except Fault (Document × List Char)
  | 0, _, _, s => .error (.atNext .endInObject s)
  | fuel + 1, isFirst, fields, s => do
    match ← nextKey isFirst s with
    | (false, rest) =>
      match fields.path with
      | none => .error (.here (.missingField .path) rest)
      | some path => .ok (⟨path, fields.allowLocal.getD true⟩, rest)
    | (true, s) =>
      let (key, s) ← string s
      let (fields, s) ← fieldValue fields key s
      objectEntry fuel false fields s

def entry (s : List Char) : Except Fault (Document × List Char) :=
  match skipBlanks s with
  | '[' :: rest => listEntry rest
  | '\x7b' :: rest => objectEntry (rest.length + 1) true ⟨none, none⟩ rest
  | s => .error (wrongKind .entry s)

/-! ## Whole lists -/

/-- The entries of a list to its end. Each round reads at least one character. -/
def entries : (fuel : Nat) → (isFirst : Bool) → List Char →
    Except Fault (List Document × List Char)
  | 0, _, s => .error (.atNext .endInList s)
  | fuel + 1, isFirst, s => do
    match ← nextItem isFirst s with
    | (false, rest) => .ok ([], rest)
    | (true, s) =>
      let (document, s) ← entry s
      let (documents, rest) ← entries fuel false s
      .ok (document :: documents, rest)

def list (s : List Char) : Except Fault (List Document) :=
  match skipBlanks s with
  | '[' :: rest => do
    let (documents, rest) ← entries (rest.length + 1) true rest
    match skipBlanks rest with
    | [] => .ok documents
    | rest => .error (.atNext .trailingCharacters rest)
  | s => .error (wrongKind .list s)

def decode (text : String) : Except Error (List Document) :=
  match list text.toList with
  | .error f =>
    let (line, column) := f.position text
    .error (.malformed f.problem line column)
  | .ok [] => .error .empty
  | .ok documents => .ok documents

def load (files : Files) (path : Path) : Except Error (List Document) :=
  match files.readText path with
  | .error cause => .error (.unreadable cause)
  | .ok text => decode text

end LinkGate.Manifest
