import IrChart.Layout.Compute
import IrChart.Text.Basic

/-!
# Command line arguments

One input, and options that each take a value: after a short option at once, after an equals sign,
or as the next argument. An argument that begins with a dash is never the value of an option that
waits for one. An option is settled when the next argument has been recognised, so an argument
that is not known is reported before a bad value that stands in front of it.
-/

namespace IrChart

/-- What a run is asked to do. -/
structure Arguments where
  input : String
  output : Option String := none
  config : Option String := none
  method : Option Method := none
  seed : Option UInt64 := none
  logLevel : String := "info"
  deriving DecidableEq, Repr

/-- What the command line asks for. -/
inductive Request where
  | run (arguments : Arguments)
  | help
  | version
  deriving DecidableEq, Repr

namespace Arguments

/-- What an argument gives a value to. -/
inductive Slot where
  | input
  | output
  | config
  | layout
  | seed
  | logLevel
  deriving DecidableEq, Repr

/-- Why a command line is refused. -/
inductive Fault where
  | unknown (argument : String)
  | noValue (slot : Slot)
  | repeated (slot : Slot)
  | badValue (slot : Slot) (value : String)
  | surplusValue (argument : String)
  | noInput
  deriving DecidableEq, Repr

/-- The values that were settled, and the slot whose value is not settled yet; a slot without a
value waits for one. -/
structure State where
  input : Option String := none
  output : Option String := none
  config : Option String := none
  method : Option Method := none
  seed : Option UInt64 := none
  logLevel : Option String := none
  pending : Option (Slot × Option String) := none
  inputSeen : Bool := false
  optionsEnded : Bool := false
  deriving DecidableEq, Repr

/-- A seed in decimal digits, with an optional plus. -/
def seed? (text : String) : Option UInt64 :=
  let digits := match text.toList with
    | '+' :: rest => rest
    | cs => cs
  let n := Text.ofDigits 10 digits
  if !digits.isEmpty && digits.all (Text.isDigitOf 10) && n < Nat.pow 2 64 then
    some (UInt64.ofNat n)
  else none

/-- Gives a slot a value, once. -/
def settle (s : State) (slot : Slot) (value : String) : Except Fault State :=
  match slot with
  | .input => if s.input.isSome then .error (.repeated slot) else .ok { s with input := some value }
  | .output =>
    if s.output.isSome then .error (.repeated slot) else .ok { s with output := some value }
  | .config =>
    if s.config.isSome then .error (.repeated slot) else .ok { s with config := some value }
  | .logLevel =>
    if s.logLevel.isSome then .error (.repeated slot) else .ok { s with logLevel := some value }
  | .layout =>
    if s.method.isSome then .error (.repeated slot)
    else match Method.ofName? value with
      | some method => .ok { s with method := some method }
      | none => .error (.badValue slot value)
  | .seed =>
    if s.seed.isSome then .error (.repeated slot)
    else match seed? value with
      | some seed => .ok { s with seed := some seed }
      | none => .error (.badValue slot value)

/-- Settles the pending slot, which must have got a value. -/
def settlePending (s : State) : Except Fault State :=
  match s.pending with
  | none => .ok s
  | some (slot, none) => .error (.noValue slot)
  | some (slot, some value) => settle { s with pending := none } slot value

/-- What an option name stands for. -/
inductive Meaning where
  | slot (slot : Slot)
  | help
  | version
  deriving DecidableEq, Repr

/-- The meaning of a long option, without its dashes. -/
def long? (name : String) : Option Meaning :=
  [("output", Meaning.slot .output), ("config", .slot .config), ("layout", .slot .layout),
    ("seed", .slot .seed), ("log-level", .slot .logLevel), ("help", .help),
    ("version", .version)].lookup name

/-- The meaning of a short option. -/
def short? (name : Char) : Option Meaning :=
  [('o', Meaning.slot .output), ('c', .slot .config), ('l', .slot .layout), ('s', .slot .seed),
    ('h', .help), ('V', .version)].lookup name

/-- A state to go on with, or the request that ends the reading. -/
abbrev Step := Except Fault (State ⊕ Request)

/-- Takes an option with the value that is joined to it, if any. -/
def takeOption (s : State) (argument : String) (meaning : Meaning) (value : Option String) :
    Step := do
  match meaning, value with
  | .slot slot, some value => return .inl (← settle (← settlePending s) slot value)
  | .slot slot, none =>
    let s ← settlePending s
    return .inl { s with pending := some (slot, none) }
  | .help, none =>
    let _ ← settlePending s
    return .inr .help
  | .version, none =>
    let _ ← settlePending s
    return .inr .version
  | _, some _ => throw (.surplusValue argument)

/-- Takes a long option, without its dashes. -/
def takeLong (s : State) (argument : String) (cs : List Char) : Step :=
  let name := cs.takeWhile (· != '=')
  let value := match cs.dropWhile (· != '=') with
    | [] => none
    | _ :: value => some (String.ofList value)
  match long? (String.ofList name) with
  | some meaning => takeOption s argument meaning value
  | none => .error (.unknown argument)

/-- Takes a short option, without its dash. -/
def takeShort (s : State) (argument : String) (name : Char) (rest : List Char) : Step :=
  match short? name with
  | none => .error (.unknown argument)
  | some (.slot slot) =>
    let value := match rest with
      | [] => none
      | '=' :: value => some (String.ofList value)
      | value => some (String.ofList value)
    takeOption s argument (.slot slot) value
  | some meaning => takeOption s argument meaning none

/-- Takes an input; there is only one. -/
def takeInput (s : State) (argument : String) : Step := do
  if s.inputSeen then throw (.unknown argument)
  else
    let s ← settlePending s
    return .inl { s with pending := some (.input, some argument), inputSeen := true }

/-- Takes an argument that is no option: the value that an option waits for, or an input. -/
def takeValue (s : State) (argument : String) : Step :=
  match s.pending with
  | some (slot, none) => .ok (.inl { s with pending := some (slot, some argument) })
  | _ => takeInput s argument

/-- Takes an argument. -/
def take (s : State) (argument : String) : Step :=
  if s.optionsEnded then takeInput s argument
  else match argument.toList with
    | ['-', '-'] => .ok (.inl { s with optionsEnded := true })
    | '-' :: '-' :: rest => takeLong s argument rest
    | '-' :: name :: rest => takeShort s argument name rest
    | _ => takeValue s argument

/-- The arguments that a state holds at the end. -/
def finish (s : State) : Except Fault Arguments := do
  let s ← settlePending s
  match s.input with
  | none => throw .noInput
  | some input =>
    return { input, output := s.output, config := s.config, method := s.method, seed := s.seed,
             logLevel := s.logLevel.getD "info" }

/-- What arguments ask for from a state on. -/
def readFrom (s : State) : List String → Except Fault Request
  | [] => do return .run (← finish s)
  | argument :: rest => do
    match ← take s argument with
    | .inl s => readFrom s rest
    | .inr request => return request

/-- What a command line asks for; the program's own name is not part of it. -/
def read (arguments : List String) : Except Fault Request := readFrom {} arguments

end Arguments
end IrChart
