import SceneSelector.CommandLine.Arguments
import SceneSelector.Configuration.Layers
import SceneSelector.Data.Json
import SceneSelector.Data.Yaml
import SceneSelector.Grammar.Table
import SceneSelector.Log.Threshold
import SceneSelector.Query.Reading
import SceneSelector.Record.Drawing
import SceneSelector.Text.Column

/-!
# Reports

A run of the program answers with an exit code and two texts: what it found,
and what went wrong. Everything that it needs of the world around it is in
`Surroundings`, so a report is a function of that and the arguments.
-/

namespace SceneSelector.CommandLine

structure Report where
  code : Nat
  stdout : String
  stderr : String
deriving DecidableEq, Repr

namespace Report

def ofStdout (text : String) : Report :=
  ⟨0, text, ""⟩

def failed (message : String) : Report :=
  ⟨1, "", message ++ "\n"⟩

/-- The same report with more said before what went wrong. -/
def after (text : String) (r : Report) : Report :=
  { r with stderr := text ++ r.stderr }

end Report

/-! ## Tokens and grammar -/

/-- A token as a row of a table: its kind, its text and where it stands. -/
def tokenRow (t : Token) : String :=
  Column.left 14 t.kind.title ++ " " ++ Column.left 12 t.display ++ " " ++
    toString t.span.start ++ ".." ++ toString t.span.stop ++ "\n"

def tokensReport (query : String) : Report :=
  .ofStdout (String.join ((lex query).map tokenRow))

def grammarReport : Report :=
  .ofStdout Grammar.selector.table

/-! ## Queries -/

/-- Why a query is rejected although its match records could be drawn. -/
inductive Rejection where
  | depthLimit (maxDepth : Nat)
  | unexpected (next : Token) (consumed total : Nat)
  | noMatch
deriving DecidableEq, Repr

def Rejection.message : Rejection → String
  | depthLimit maxDepth =>
    "query nests deeper than the depth limit of " ++ toString maxDepth
  | unexpected next consumed total =>
    "unexpected `" ++ next.display ++ "` after " ++ toString consumed ++
      " of " ++ toString total ++ " tokens"
  | noMatch => "query does not match the selector grammar"

/-- Why an outcome is not a query's, if it is not. -/
def rejection? (maxDepth : Nat) (o : Outcome) : Option Rejection :=
  if o.isComplete then none
  else if o.depthExceeded then some (.depthLimit maxDepth)
  else
    match o.next? with
    | some next =>
      if o.matched then some (.unexpected next o.consumed o.tokenCount)
      else some .noMatch
    | none => some .noMatch

def rejected (message : String) : String :=
  "Rejected: " ++ message

/-- The drawing of the match records, of rejected queries too. -/
def drawingReport (c : Configuration) (query : String) : Report :=
  let o := (Matcher.selector c.maxDepth).parse query
  let drawing := o.record.drawing c.showPositions
  match rejection? c.maxDepth o with
  | none => .ofStdout drawing
  | some r => { Report.failed (rejected r.message) with stdout := drawing }

/-- The query itself, if it is not rejected. -/
def queryReport (write : Query → String) (c : Configuration) (query : String) :
    Report :=
  match (Matcher.selector c.maxDepth).parseSelector query with
  | .ok q => .ofStdout (write q)
  | .error e => .failed (rejected e.message)

/-- The report on a query in the format of the configuration. Only one of the
two data formats ends its last line by itself. -/
def parseReport (c : Configuration) (query : String) : Report :=
  match c.format with
  | .treeviz => drawingReport c query
  | .json => queryReport (fun q => q.toJson ++ "\n") c query
  | .yaml => queryReport Query.toYaml c query

/-! ## Runs -/

/-- What a run depends on besides its arguments: the log level that holds if
the arguments name none, and the text of the file that they name, if that
exists. -/
structure Surroundings where
  logLevel : Option String
  configText : Option String
deriving DecidableEq, Repr

/-- The threshold for log records, and a complaint if the name for it is not
known. -/
def threshold (w : Surroundings) (a : Arguments) : Log.Threshold × String :=
  match a.logLevel.or w.logLevel with
  | none => (.default, "")
  | some name =>
    match Log.Threshold.ofName? name with
    | some t => (t, "")
    | none => (.default, "Unknown log level `" ++ name ++ "`, using warn\n")

/-- The file that the arguments name over the defaults. -/
def fileLayers (w : Surroundings) (a : Arguments) : Layers :=
  match a.config with
  | some name => Layers.base.addFile ⟨name, w.configText, true⟩
  | none => .base

/-- The key of the format. -/
def formatKey : KeyPath :=
  ⟨[.key "output", .key "format"]⟩

/-- A report that needs a configuration. -/
def configured (l : Layers) (report : Configuration → Report) : Report :=
  match l.configuration with
  | .ok c => report c
  | .error e => .failed ("Configuration error: " ++ e.message)

/-- A report after what was logged for it. -/
def logged (t : Log.Threshold) (entries : List Log.Entry) (r : Report) : Report :=
  r.after (Log.lines t entries)

/-- What is logged on the way to a query's report. -/
def parseLog (maxDepth : Nat) (query : String) : List Log.Entry :=
  let m := Matcher.selector maxDepth
  Log.ofGrammar m.grammar :: m.parseLog (lex query)

def commandReport (w : Surroundings) (a : Arguments) (t : Log.Threshold) :
    Command → Report
  | .tokens query => tokensReport query
  | .grammar =>
    configured (fileLayers w a) fun _ =>
      logged t [Log.ofGrammar .selector] grammarReport
  | .parse query format =>
    let report (l : Layers) :=
      configured l fun c => logged t (parseLog c.maxDepth query) (parseReport c query)
    match format with
    | none => report (fileLayers w a)
    | some name =>
      -- a wrong format is told before the file is looked at
      match OutputFormat.ofTitle? name with
      | none =>
        .failed ("Unknown format `" ++ name ++
          "` (expected treeviz, json or yaml)")
      | some f =>
        report ((fileLayers w a).addOverride formatKey
          (.scalar .direct (.text f.title)))

/-- The name of the program and its version. -/
def versionLine : String :=
  "scenequery 0.1.0\n"

/-- The report on arguments that make no request. -/
def usageReport : Report :=
  ⟨2, "", "Usage: scenequery [OPTIONS] <COMMAND>\n"⟩

def Request.report (w : Surroundings) : Request → Report
  | .version => .ofStdout versionLine
  | .run a =>
    let (t, complaint) := threshold w a
    (commandReport w a t a.command).after complaint

/-- The report on a run. -/
def report (w : Surroundings) (args : List String) : Report :=
  match Request.ofArguments? args with
  | some r => r.report w
  | none => usageReport

end SceneSelector.CommandLine
