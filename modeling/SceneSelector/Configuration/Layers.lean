import SceneSelector.Configuration
import SceneSelector.Matcher
import SceneSelector.Setting.KeyPath
import SceneSelector.Setting.Toml

/-!
# Layers of settings

A configuration is read from layers: the defaults, files over them in their
order, and overrides of single keys over everything. A later layer wins key
by key. A file that must be there and is not, or that cannot be read, leaves
no configuration at all, whatever lies over it.
-/

namespace SceneSelector

/-- A file of settings and its text, if the file exists. -/
structure SettingsFile where
  name : String
  text : Option String
  isRequired : Bool
deriving DecidableEq, Repr

/-- What the file says under its outermost keys. -/
def SettingsFile.entries (f : SettingsFile) :
    Except Configuration.Error (List (String × Setting)) :=
  match f.text with
  | some text =>
    match Toml.read? (.file f.name) text with
    | some es => .ok es
    | none => .error (.unreadableFile f.name)
  | none => if f.isRequired then .error (.missingFile f.name) else .ok []

structure Layers where
  files : List SettingsFile
  overrides : List (KeyPath × Setting)
deriving Repr

namespace Layers

/-- What holds where nothing else is said. -/
def defaults : Setting :=
  .table .direct
    [("engine", .table .direct
      [("max_depth", .scalar .direct (.whole Matcher.defaultMaxDepth))]),
     ("output", .table .direct
      [("format", .scalar .direct (.text OutputFormat.treeviz.title)),
       ("show_positions", .scalar .direct (.truth true))])]

/-- The defaults alone. -/
def base : Layers :=
  ⟨[], []⟩

def addFile (l : Layers) (f : SettingsFile) : Layers :=
  { l with files := l.files ++ [f] }

/-- Overrides with `value` for `path`, in the place of an old one or last. -/
def replace (path : KeyPath) (value : Setting) :
    List (KeyPath × Setting) → List (KeyPath × Setting)
  | [] => [(path, value)]
  | (p, v) :: os =>
    if p = path then (path, value) :: os else (p, v) :: replace path value os

def addOverride (l : Layers) (path : KeyPath) (value : Setting) : Layers :=
  { l with overrides := replace path value l.overrides }

/-- Put what a file says under one of its outermost keys, which are key paths
if they can be. -/
def putFileEntry (s : Setting) (e : String × Setting) : Setting :=
  s.set ((KeyPath.ofText? e.1).getD (.ofKey e.1)) e.2

/-- The tree of settings that all layers make. -/
def tree (l : Layers) : Except Configuration.Error Setting := do
  let ofFiles ← l.files.foldlM
    (fun s f => do return (← f.entries).foldl putFileEntry s) defaults
  return l.overrides.foldl (fun s o => s.set o.1 o.2) ofFiles

def configuration (l : Layers) : Except Configuration.Error Configuration := do
  Configuration.ofSetting (← l.tree)

end Layers

end SceneSelector
