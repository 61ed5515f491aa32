/-!
# Command-line arguments

The arguments of a run are a command, its operands, and options. Options that
every command has may stand before or after the command, and what stands after
it wins. An option's value follows its name as an argument of its own, which
must not look like an option, or in the same argument. After `--` there are
only operands.

Arguments are first read one by one as `Item`s, then put together.
-/

namespace SceneSelector.CommandLine

/-- The options that have a value. -/
inductive Setter where
  | config
  | logLevel
  | format
deriving DecidableEq, Repr

namespace Setter

/-- The option with a name after two dashes. -/
def ofLongName? (name : List Char) : Option Setter :=
  if name = "config".toList then some config
  else if name = "log-level".toList then some logLevel
  else if name = "format".toList then some format
  else none

/-- The option with a letter after one dash. -/
def ofLetter? : Char → Option Setter
  | 'c' => some config
  | 'f' => some format
  | _ => none

end Setter

/-- What an argument is by itself. -/
inductive Form where
  | plain
  | separator
  | version
  | setter (name : Setter) (value : Option String)
  | unknown
deriving DecidableEq, Repr

namespace Form

/-- What follows two dashes: a name, and after `=` a value. -/
def ofLong (text : List Char) : Form :=
  let name := text.takeWhile (· != '=')
  let value :=
    match text.dropWhile (· != '=') with
    | _ :: value => some (String.ofList value)
    | [] => none
  match Setter.ofLongName? name with
  | some s => setter s value
  | none => if text = "version".toList then version else unknown

/-- What follows one dash: a letter, and a value, which `=` may stand
before. The letter `V` acts whatever follows it. -/
def ofShort (letter : Char) (text : List Char) : Form :=
  let value :=
    match text with
    | [] => none
    | '=' :: value => some (String.ofList value)
    | value => some (String.ofList value)
  match Setter.ofLetter? letter with
  | some s => setter s value
  | none => if letter = 'V' then version else unknown

def ofText (arg : String) : Form :=
  match arg.toList with
  | ['-', '-'] => separator
  | '-' :: '-' :: text => ofLong text
  | '-' :: letter :: text => ofShort letter text
  | _ => plain

end Form

/-- An argument, or two if one is the value of the other. -/
inductive Item where
  | operand (text : String)
  | separator
  | version
  | set (name : Setter) (value : String)
  | wrong
deriving DecidableEq, Repr

/-- The items of arguments. What follows a wrong one is not looked at. -/
def items : List String → List Item
  | [] => []
  | arg :: args =>
    match Form.ofText arg with
    | .plain => .operand arg :: items args
    | .separator => .separator :: args.map .operand
    | .version => .version :: items args
    | .setter name (some value) => .set name value :: items args
    | .setter name none =>
      -- the next argument is the value, unless it looks like an option
      match args with
      | [] => [.wrong]
      | value :: rest =>
        if Form.ofText value = .plain then .set name value :: items rest
        else [.wrong]
    | .unknown => [.wrong]

/-- The values of options. -/
structure Options where
  config : Option String
  logLevel : Option String
  format : Option String
deriving DecidableEq, Repr

namespace Options

def empty : Options :=
  ⟨none, none, none⟩

/-- Set a value that has not been set. -/
def set? (o : Options) : Setter → String → Option Options
  | .config, v => if o.config.isNone then some { o with config := v } else none
  | .logLevel, v =>
    if o.logLevel.isNone then some { o with logLevel := v } else none
  | .format, v => if o.format.isNone then some { o with format := v } else none

end Options

inductive Command where
  | parse (query : String) (format : Option String)
  | tokens (query : String)
  | grammar
deriving DecidableEq, Repr

/-- The command of a name, with a format if it has that option, and its
operands. -/
def Command.ofParts? (name : String) (format : Option String)
    (operands : List String) : Option Command :=
  match format, operands with
  | none, [query] =>
    if name = "parse" then some (parse query none)
    else if name = "tokens" then some (tokens query)
    else none
  | some f, [query] => if name = "parse" then some (parse query (some f)) else none
  | none, [] => if name = "grammar" then some grammar else none
  | _, _ => none

structure Arguments where
  command : Command
  config : Option String
  logLevel : Option String
deriving DecidableEq, Repr

/-- What a run is to do. -/
inductive Request where
  | version
  | run (args : Arguments)
deriving DecidableEq, Repr

namespace Request

/-- The options and operands after a command. -/
def commandTail? : List Item → Option (Options × List String)
  | [] => some (.empty, [])
  | .operand text :: is => do
    let (o, operands) ← commandTail? is
    return (o, text :: operands)
  | .separator :: is => commandTail? is
  | .set name value :: is => do
    let (o, operands) ← commandTail? is
    return (← o.set? name value, operands)
  | .version :: _ | .wrong :: _ => none

/-- The request of items, with the options that came before them. The format
is not an option of every command. -/
def ofItems? (o : Options) : List Item → Option Request
  | .set .format _ :: _ => none
  | .set name value :: is => do ofItems? (← o.set? name value) is
  | .version :: _ => some version
  | .operand name :: is => do
    let (inner, operands) ← commandTail? is
    let command ← Command.ofParts? name inner.format operands
    return run ⟨command, inner.config.or o.config, inner.logLevel.or o.logLevel⟩
  | .separator :: _ | .wrong :: _ | [] => none

/-- The request that arguments make, if they make one. -/
def ofArguments? (args : List String) : Option Request :=
  ofItems? .empty (items args)

end Request

end SceneSelector.CommandLine
