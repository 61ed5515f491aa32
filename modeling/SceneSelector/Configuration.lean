import SceneSelector.Decimal.Shortest
import SceneSelector.OutputFormat
import SceneSelector.Setting
import SceneSelector.Text.Visible

/-!
# Configurations

What can be configured, and how it is read from a tree of settings. There are
two sections, `engine` and `output`. A section is a table or, with its values
in their order, a list. Values are taken generously: a number may be written
as a text, a truth value as a number, and so on.
-/

namespace SceneSelector

structure Configuration where
  maxDepth : Nat
  format : OutputFormat
  showPositions : Bool
deriving DecidableEq, Repr

namespace Configuration

inductive Section where
  | engine
  | output
deriving DecidableEq, Repr

/-- What error messages call a section. -/
def Section.title : Section → String
  | engine => "struct EngineConfig"
  | output => "struct OutputConfig"

/-- How many values a section has. -/
def Section.size : Section → Nat
  | engine => 1
  | output => 2

/-- What a value should have been. -/
inductive Expected where
  | whole
  | unsigned
  | truth
deriving DecidableEq, Repr

def Expected.title : Expected → String
  | whole => "an integer"
  | unsigned => "an unsigned 64 bit or less integer"
  | truth => "a boolean"

/-- What was there instead. -/
inductive Found where
  | scalar (value : Scalar)
  | list
  | table
deriving DecidableEq, Repr

/-- Why there is no configuration. -/
inductive Error where
  | wrongValue (found : Found) (expected : Expected) (key : String) (origin : Origin)
  | wrongSection (found : Scalar) (part : Section)
  | shortSection (length : Nat) (part : Section)
  | missingKey (name : String)
  | unknownFormat (name : String)
  | noFormat
  | missingFile (name : String)
  | unreadableFile (name : String)
deriving DecidableEq, Repr

/-! ## Messages -/

/-- A scalar in an error message. -/
def describe (wholeTitle : String) : Scalar → String
  | .nothing => "unit value"
  | .truth b => "boolean `" ++ toString b ++ "`"
  | .whole n => wholeTitle ++ " `" ++ toString n ++ "`"
  | .real x => "floating point `" ++ x.display ++ "`"
  | .text s => "string " ++ Visible.quote s

def Found.title : Found → String
  | scalar v => describe "64-bit integer" v
  | list => "sequence"
  | table => "map"

/-- The remark that a value came from a file. -/
def originRemark : Origin → String
  | .direct => ""
  | .file name => " in " ++ name

def Error.message : Error → String
  | wrongValue found expected key origin =>
    "invalid type: " ++ found.title ++ ", expected " ++ expected.title ++
      " for key `" ++ key ++ "`" ++ originRemark origin
  | wrongSection found part =>
    "invalid type: " ++ describe "integer" found ++ ", expected " ++ part.title
  | shortSection length part =>
    "invalid length " ++ toString length ++ ", expected " ++ part.title ++
      " with " ++ toString part.size ++
      (if part.size = 1 then " element" else " elements")
  | missingKey name => "missing field `" ++ name ++ "`"
  | unknownFormat name =>
    "enum OutputFormat does not have variant constructor " ++ name
  | noFormat =>
    "value of enum OutputFormat should be represented by either string or " ++
      "table with exactly one key"
  | missingFile name => "configuration file \"" ++ name ++ "\" not found"
  | unreadableFile name => "configuration file \"" ++ name ++ "\" is not TOML"

/-! ## Values -/

/-- The truth value that a word in small letters stands for. -/
def truthOfWord? (word : String) : Option Bool :=
  if ["true", "on", "yes"].contains word then some true
  else if ["false", "off", "no"].contains word then some false
  else none

/-- The greatest number that a value can have. -/
def greatestNat : Nat :=
  twoTo 64 - 1

/-- Digits, which a plus sign may stand before. -/
def readNat? (text : String) : Option Nat :=
  let digits :=
    match text.toList with
    | '+' :: rest => rest
    | all => all
  (Decimal.readDigits? digits).filter (· ≤ greatestNat)

/-- The number that a setting is. -/
def natOf (key : String) : Setting → Except Error Nat
  | .scalar origin v =>
    let wrong (expected : Expected) : Except Error Nat :=
      .error (.wrongValue (.scalar v) expected key origin)
    match v with
    | .whole (.ofNat n) => .ok n
    | .whole (.negSucc _) => wrong .unsigned
    | .truth b => .ok b.toNat
    | .real x => .ok (x.toNatUpTo greatestNat)
    | .text s =>
      match ((truthOfWord? (Case.small s)).map Bool.toNat).or (readNat? s) with
      | some n => .ok n
      | none => wrong .whole
    | .nothing => wrong .whole
  | .list origin _ => .error (.wrongValue .list .whole key origin)
  | .table origin _ => .error (.wrongValue .table .whole key origin)

/-- The truth value that a setting is. -/
def truthOf (key : String) : Setting → Except Error Bool
  | .scalar origin v =>
    match v with
    | .truth b => .ok b
    | .whole n => .ok (n != 0)
    | .real x => .ok !x.isZero
    | .text s =>
      let word := Case.small s
      if word = "1" then .ok true
      else if word = "0" then .ok false
      else
        match truthOfWord? word with
        | some b => .ok b
        | none => .error (.wrongValue (.scalar (.text word)) .truth key origin)
    | .nothing => .error (.wrongValue (.scalar .nothing) .truth key origin)
  | .list origin _ => .error (.wrongValue .list .truth key origin)
  | .table origin _ => .error (.wrongValue .table .truth key origin)

/-- The format that a setting names, as a text or as the only key of a
table. -/
def formatOf : Setting → Except Error OutputFormat
  | .scalar _ (.text name) | .table _ [(name, _)] =>
    match OutputFormat.ofAnyCase? name with
    | some f => .ok f
    | none => .error (.unknownFormat name)
  | .scalar _ _ | .table _ _ | .list _ _ => .error .noFormat

/-! ## Sections -/

/-- The setting is there. -/
def require {α : Type} (name : String) : Option α → Except Error α
  | some a => .ok a
  | none => .error (.missingKey name)

def maxDepthOf (engine : Setting) : Except Error Nat :=
  match engine with
  | .table _ _ => do
    natOf "engine.max_depth" (← require "max_depth" (engine.get? "max_depth"))
  | .list _ (depth :: _) => natOf "engine[0]" depth
  | .list _ [] => .error (.shortSection 0 .engine)
  | .scalar _ v => .error (.wrongSection v .engine)

/-- The values of the section `output`. Of a table, those that are there are
read before any is missed. -/
def outputOf (output : Setting) : Except Error (OutputFormat × Bool) :=
  match output with
  | .table _ _ => do
    let format ← (output.get? "format").mapM formatOf
    let positions ←
      (output.get? "show_positions").mapM (truthOf "output.show_positions")
    return (← require "format" format, ← require "show_positions" positions)
  | .list _ (format :: positions :: _) => do
    return (← formatOf format, ← truthOf "output[1]" positions)
  | .list _ [format] => do
    let _ ← formatOf format
    .error (.shortSection 1 .output)
  | .list _ [] => .error (.shortSection 0 .output)
  | .scalar _ v => .error (.wrongSection v .output)

/-- The configuration that a tree of settings says. -/
def ofSetting (root : Setting) : Except Error Configuration := do
  let maxDepth ← maxDepthOf (← require "engine" (root.get? "engine"))
  let (format, showPositions) ←
    outputOf (← require "output" (root.get? "output"))
  return ⟨maxDepth, format, showPositions⟩

end Configuration

end SceneSelector
