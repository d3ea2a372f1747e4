import LinkGate.CommandLine.Refusal
import LinkGate.Config
import LinkGate.Text.Affix
import LinkGate.Text.Similarity

/-!
# Reading a command line

Arguments are read one after the other. A switch that takes a value waits for it; its value is looked
at when the next switch comes or at the end. No switch may be given twice.
-/

namespace LinkGate.CommandLine

inductive LogLevel where
  | info
  | debug
deriving DecidableEq, Repr

def LogLevel.name : LogLevel → String
  | info => "INFO"
  | debug => "DEBUG"

structure Options where
  config : Config
  /-- Whether the report is written for other programs. -/
  json : Bool
  verbose : Bool
  logJson : Bool
deriving DecidableEq, Repr

def Options.standard : Options := ⟨.standard ⟨"."⟩, false, false, false⟩

def Options.logLevel (o : Options) : LogLevel :=
  if o.verbose then .debug else .info

/-! ## Numbers -/

inductive NumberFault where
  | empty
  | invalidDigit
  | tooLarge
  | tooSmall
deriving DecidableEq, Repr

def NumberFault.message : NumberFault → String
  | empty => "cannot parse integer from empty string"
  | invalidDigit => "invalid digit found in string"
  | tooLarge => "number too large to fit in target type"
  | tooSmall => "number too small to fit in target type"

/-- Reads digits after others that make up `value`. The first digit that leads beyond `limit` is the
fault, unless something that is no digit comes before. -/
def readDigits (limit : Nat) (overflow : NumberFault) (value : Nat) :
    List Char → Except NumberFault Nat
  | [] => .ok value
  | c :: rest =>
    if !c.isDigit then .error .invalidDigit
    else
      let next := value * 10 + (c.toNat - '0'.toNat)
      if limit < next then .error overflow else readDigits limit overflow next rest

def readNumber : List Char → Except NumberFault Nat
  | [] => .error .empty
  | ['+'] => .error .invalidDigit
  | '+' :: digits => readDigits 0xFFFFFFFFFFFFFFFF .tooLarge 0 digits
  | digits => readDigits 0xFFFFFFFFFFFFFFFF .tooLarge 0 digits

def readInteger : List Char → Except NumberFault Int
  | [] => .error .empty
  | ['+'] => .error .invalidDigit
  | ['-'] => .error .invalidDigit
  | '+' :: digits => (readDigits 0x7FFFFFFFFFFFFFFF .tooLarge 0 digits).map Int.ofNat
  | '-' :: digits => (readDigits 0x8000000000000000 .tooSmall 0 digits).map fun n => -Int.ofNat n
  | digits => (readDigits 0x7FFFFFFFFFFFFFFF .tooLarge 0 digits).map Int.ofNat

def numberValue (s : Switch) (value : String) : Except Refusal Nat :=
  match readNumber value.toList with
  | .ok n => .ok n
  | .error fault => .error (.invalidValue s value fault.message)

/-- The value of a switch that takes a number of 32 bits other than zero. -/
def attemptsValue (s : Switch) (value : String) : Except Refusal Nat :=
  match readInteger value.toList with
  | .error fault => .error (.invalidValue s value fault.message)
  | .ok n =>
    if 1 ≤ n ∧ n ≤ 0xFFFFFFFF then .ok n.toNat
    else .error (.invalidValue s value (toString n ++ " is not in 1..=4294967295"))

def pathValue (s : Switch) (value : String) : Except Refusal Path :=
  if value = "" then .error (.missingValue s) else .ok ⟨value⟩

/-! ## Switches -/

def Options.modify (o : Options) (change : Config → Config) : Options :=
  { o with config := change o.config }

def Options.withFlag (o : Options) : Switch → Options
  | .all => o.modify ({ · with checkAll := true })
  | .json => { o with json := true }
  | .verbose => { o with verbose := true }
  | .logJson => { o with logJson := true }
  | _ => o

def Options.withValue (o : Options) (s : Switch) (value : String) : Except Refusal Options :=
  match s with
  | .root => (pathValue s value).map fun p => o.modify ({ · with root := p })
  | .manifest => (pathValue s value).map fun p => o.modify ({ · with manifest := some p })
  | .targetRef => .ok (o.modify ({ · with targetRef := some value }))
  | .targetRepo => .ok (o.modify ({ · with targetRepository := some value }))
  | .backoffSecs => (numberValue s value).map fun n =>
    o.modify fun c => { c with retry := { c.retry with backoff := n * 1000 } }
  | .maxAttempts => (attemptsValue s value).map fun n =>
    o.modify fun c => { c with retry := { c.retry with maxAttempts := n } }
  | .timeoutSecs => (numberValue s value).map fun n => o.modify ({ · with timeout := n * 1000 })
  | .maxConcurrency => (numberValue s value).map fun n =>
    o.modify ({ · with maxConcurrency := some n })
  | _ => .ok o

/-- A switch that waits for its value, which may have come already. -/
structure Pending where
  switch : Switch
  value : Option String
deriving DecidableEq, Repr

structure Reading where
  options : Options
  /-- The switches that were given. -/
  given : List Switch
  pending : Option Pending
deriving DecidableEq, Repr

namespace Reading

def start : Reading := ⟨.standard, [], none⟩

def use (r : Reading) (s : Switch) : Except Refusal Reading :=
  if r.given.contains s then .error (.repeated s) else .ok { r with given := r.given ++ [s] }

def settle (r : Reading) : Except Refusal Reading :=
  match r.pending with
  | none => .ok r
  | some ⟨s, none⟩ => .error (.missingValue s)
  | some ⟨s, some value⟩ => do
    let r ← r.use s
    let options ← r.options.withValue s value
    return { r with options, pending := none }

def flag (r : Reading) (s : Switch) (isLong : Bool) : Except Refusal Reading := do
  let r ← r.settle
  match s with
  | .help => throw (.help isLong)
  | .version => throw .version
  | s =>
    let r ← r.use s
    return { r with options := r.options.withFlag s }

/-- Reads a switch that takes a value, which may follow in the same argument. -/
def await (r : Reading) (s : Switch) (value : Option String) : Except Refusal Reading := do
  let r ← r.settle
  let r := { r with pending := some ⟨s, value⟩ }
  if value.isSome then r.settle else return r

def hasChoice (r : Reading) : Bool :=
  !r.given.isEmpty || r.pending.any (·.value.isSome)

/-- The hint that shows some switches beside those that were given. -/
def usage (r : Reading) (shown : List Switch) : Usage :=
  let others := shown.filter (·.isQuestion)
  ⟨others, r.hasChoice || others.length < shown.length⟩

def long (r : Reading) (name : String) (value : Option String) : Except Refusal Reading :=
  match Switch.ofName? name with
  | none =>
    let similar := Text.mostSimilar? Switch.name name Switch.every
    .error (.unknownArgument ("--" ++ name) similar (r.usage similar.toList))
  | some s =>
    match s.valueKind?, value with
    | some _, value => r.await s value
    | none, none => r.flag s true
    | none, some value =>
      .error (.unexpectedValue s value
        (if r.given.isEmpty then ⟨[s], false⟩ else ⟨[s].filter (·.isQuestion), true⟩))

/-- Reads letters after one dash. No letter takes a value. -/
def letters (r : Reading) : List Char → Except Refusal Reading
  | [] => .ok r
  | c :: rest =>
    match Switch.ofLetter? c with
    | none => .error (.unknownArgument (String.ofList ['-', c]) none .general)
    | some s => do
      let r ← r.flag s false
      r.letters rest

def plain (r : Reading) (argument : String) : Except Refusal Reading :=
  match r.pending with
  | some ⟨s, none⟩ => .ok { r with pending := some ⟨s, some argument⟩ }
  | _ => .error (.unknownArgument argument none .general)

def argument (r : Reading) (text : String) : Except Refusal Reading :=
  match text.toList with
  | '-' :: '-' :: rest =>
    match Text.splitOnce? '=' rest with
    | none => r.long (String.ofList rest) none
    | some (name, value) => r.long (String.ofList name) (some (String.ofList value))
  | '-' :: c :: rest => r.letters (c :: rest)
  | _ => r.plain text

/-- Reads all arguments. After two dashes nothing is a switch or the value of one, and nothing else is
wanted. -/
def arguments (r : Reading) : List String → Except Refusal Reading
  | [] => .ok r
  | "--" :: [] => .ok r
  | "--" :: argument :: _ => .error (.unknownArgument argument none .general)
  | argument :: rest =>
    match r.argument argument with
    | .error refusal => .error refusal
    | .ok r => r.arguments rest

end Reading

def parse (arguments : List String) : Except Refusal Options := do
  let reading ← Reading.start.arguments arguments
  let reading ← reading.settle
  return reading.options

end LinkGate.CommandLine
