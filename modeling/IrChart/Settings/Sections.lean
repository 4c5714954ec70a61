import IrChart.Session
import IrChart.Text.Visible
import IrChart.Toml.Document
import IrChart.Toml.Value

/-!
# Settings files

A settings file is a TOML document with two sections, `layout` and `report`. Whatever it leaves
out has a default; a key that is not known is refused, so that a misspelt one is noticed. Keys are
looked at in alphabetical order, and the first fault is reported.
-/

namespace IrChart.Settings
open Toml (Value Table)

/-- What a settings file sets. -/
structure Sections where
  config : Config := {}
  reportPath : Option String := none
  deriving DecidableEq, Repr

/-- Why a settings file is refused. `methodCount` is for a table that names no method or several,
`methodNotEmpty` and `methodNotTable` for a method's name with something below it. -/
inductive Fault where
  | malformed (fault : Toml.Fault)
  | unknownKey (key : String) (known : List String)
  | unknownMethod (name : String)
  | methodType
  | methodCount (several : Bool)
  | methodNotEmpty (isTable : Bool)
  | methodNotTable (found : String)
  | wrongType (found expected : String)
  | wrongValue (found expected : String)
  | overflow (isWhole : Bool)
  deriving DecidableEq, Repr

/-- A choice between names: one, one or the other, or one of several. -/
def choice (names : List String) : String :=
  match names.map fun name => "`" ++ name ++ "`" with
  | [only] => only
  | [one, other] => one ++ " or " ++ other
  | names => "one of " ++ ", ".intercalate names

/-- The fault in words. -/
def Fault.message : Fault → String
  | malformed fault => fault.message
  | unknownKey key known => "unknown field `" ++ key ++ "`, expected " ++ choice known
  | unknownMethod name =>
    "unknown variant `" ++ name ++ "`, expected " ++ choice (Method.all.map Method.name)
  | methodType => "wanted string or table"
  | methodCount several =>
    "wanted exactly 1 element, " ++ (if several then "more than 1 element" else "found 0 elements")
  | methodNotEmpty isTable => "expected empty " ++ (if isTable then "table" else "array")
  | methodNotTable found => "expected table, found " ++ found
  | wrongType found expected => "invalid type: " ++ found ++ ", expected " ++ expected
  | wrongValue found expected => "invalid value: " ++ found ++ ", expected " ++ expected
  | overflow isWhole =>
    (if isWhole then "integer" else "floating-point") ++ " number overflowed"

/-- A character of a quoted text in a message. -/
def quotedChar (c : Char) : List Char :=
  if c = '"' then ['\\', '"']
  else if c = '\\' then ['\\', '\\']
  else if c = '\n' then ['\\', 'n']
  else if c = '\r' then ['\\', 'r']
  else if c = '\t' then ['\\', 't']
  else if c.toNat = 0 then ['\\', '0']
  else if !Text.isVisible c then
    ['\\', 'u', '\x7b'] ++ Nat.toDigits 16 c.toNat ++ ['\x7d']
  else [c]

/-- A quoted text in a message. -/
def quotedText (text : String) : String :=
  "\"" ++ String.ofList (text.toList.flatMap quotedChar) ++ "\""

/-- Numbers with a point in messages. -/
def numberStyle : Decimal.Style := { nan := "NaN", infinity := "inf", wholePoint := true }

/-- What a whole number is, for a message: one that does not fit 64 bits is told with its type. -/
def describeInteger (number : Int) : String :=
  "integer `" ++ toString number ++ "`" ++
    (if -Nat.pow 2 63 ≤ number ∧ number < Nat.pow 2 64 then ""
    else if number < Nat.pow 2 127 then " as i128"
    else " as u128")

/-- What a value is, for a message. Dates are described as the tables they stand for. -/
def describe : Value → String
  | .string text => "string " ++ quotedText text
  | .integer number => describeInteger number
  | .double number => "floating point `" ++ (FloatDatum.ofFloat number).render numberStyle ++ "`"
  | .single number =>
    "floating point `" ++ (FloatDatum.ofFloat32 number).render numberStyle ++ "`"
  | .overflow _ => "number"
  | .boolean truth => "boolean `" ++ (if truth then "true" else "false") ++ "`"
  | .dateTime _ => "map"
  | .array _ => "sequence"
  | .table _ => "map"

/-- The fault of a value that is not what was expected. A number that could not be held is a fault
of its own. -/
def Fault.mismatch (value : Value) (expected : String) : Fault :=
  match value with
  | .overflow isWhole => .overflow isWhole
  | value => .wrongType (describe value) expected

/-- The method with a name. -/
def methodNamed (name : String) : Except Fault Method :=
  match Method.ofName? name with
  | some method => .ok method
  | none => .error (.unknownMethod name)

/-- A method: its name, or a table with the name as its only key and an empty value. -/
def readMethod : Value → Except Fault Method
  | .string name => methodNamed name
  | .table [(name, content)] => do
    let method ← methodNamed name
    match content with
    | .table [] => return method
    | .array [] => return method
    | .table _ => throw (.methodNotEmpty true)
    | .array _ => throw (.methodNotEmpty false)
    | other => throw (.methodNotTable other.typeName)
  | .table entries => .error (.methodCount !entries.isEmpty)
  | _ => .error .methodType

/-- A seed: a whole number below `2 ^ 64`. A negative number is told from one of a wrong type. -/
def readSeed : Value → Except Fault UInt64
  | .integer number =>
    if 0 ≤ number ∧ number < Nat.pow 2 64 then .ok (UInt64.ofNat number.toNat)
    else if -Nat.pow 2 63 ≤ number ∧ number < 0 then
      .error (.wrongValue (describeInteger number) "u64")
    else .error (.mismatch (.integer number) "u64")
  | value => .error (.mismatch value "u64")

/-- A path. -/
def readPath : Value → Except Fault String
  | .string path => .ok path
  | value => .error (.mismatch value "path string")

/-- The entries of a table by their keys. -/
def sortEntries (entries : Table) : Table := entries.mergeSort fun a b => a.1 ≤ b.1

/-- Takes an entry of the section `layout`. -/
def layoutEntry (config : Config) (entry : String × Value) : Except Fault Config :=
  match entry with
  | ("method", value) => do return { config with method := ← readMethod value }
  | ("seed", value) => do return { config with seed := some (← readSeed value) }
  | (key, _) => .error (.unknownKey key ["method", "seed"])

/-- Takes an entry of the section `report`; the path it sets replaces the one before. -/
def reportEntry (_ : Option String) (entry : String × Value) : Except Fault (Option String) :=
  match entry with
  | ("path", value) => do return some (← readPath value)
  | (key, _) => .error (.unknownKey key ["path"])

/-- The key under which a date holds its text. -/
def dateKey : String := "$__toml_private_datetime"

/-- The entries of a section. An array gives values to the keys in their order. -/
def sectionEntries (keys : List String) (name : String) : Value → Except Fault Table
  | .table entries => .ok (sortEntries entries)
  | .array items => .ok (keys.zip items)
  | .dateTime text => .ok [(dateKey, .string text)]
  | value => .error (.mismatch value ("struct " ++ name))

/-- Takes a section. -/
def sectionEntry (sections : Sections) (entry : String × Value) : Except Fault Sections :=
  match entry with
  | ("layout", value) => do
    let entries ← sectionEntries ["method", "seed"] "LayoutConfig" value
    return { sections with config := ← entries.foldlM layoutEntry {} }
  | ("report", value) => do
    let entries ← sectionEntries ["path"] "ReportSection" value
    return { sections with reportPath := ← entries.foldlM reportEntry none }
  | (key, _) => .error (.unknownKey key ["layout", "report"])

/-- What the text of a settings file sets. -/
def Sections.read (text : String) : Except Fault Sections := do
  match Toml.read text with
  | .error fault => throw (.malformed fault)
  | .ok table => (sortEntries table).foldlM sectionEntry {}

end IrChart.Settings
