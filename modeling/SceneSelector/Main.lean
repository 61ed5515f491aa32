import SceneSelector.CommandLine.Report

/-!
# The program

Looks up what a run depends on, and writes its report.
-/

namespace SceneSelector.CommandLine

/-- The text of a file that can be read. -/
def readFile? (name : String) : IO (Option String) := do
  try
    return some (← IO.FS.readFile name)
  catch _ =>
    return none

/-- The text of the configuration file that a request names. -/
def configText? : Option Request → IO (Option String)
  | some (.run a) =>
    match a.config with
    | some name => readFile? name
    | none => return none
  | some .version | none => return none

end SceneSelector.CommandLine

open SceneSelector CommandLine

def main (args : List String) : IO UInt32 := do
  let level ← IO.getEnv "RUST_LOG"
  let text ← configText? (Request.ofArguments? args)
  let r := report ⟨level, text⟩ args
  IO.print r.stdout
  IO.eprint r.stderr
  return UInt32.ofNat r.code
