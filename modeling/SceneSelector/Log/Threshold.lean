import SceneSelector.Log

/-!
# Log thresholds

A threshold says up to which level log records are shown. It is known by the
level's title, in capitals or small letters, or as `off`.
-/

namespace SceneSelector.Log

/-- The least important level that is shown, if any is. -/
structure Threshold where
  level : Option Level
deriving DecidableEq, Repr

namespace Threshold

/-- The threshold that holds where no other is set. -/
def default : Threshold :=
  ⟨some .warn⟩

def all : List (String × Threshold) :=
  ("OFF", ⟨none⟩) :: Level.all.map fun l => (l.title, ⟨some l⟩)

def ofName? (name : String) : Option Threshold :=
  all.lookup name.toUpper

def shows (t : Threshold) (l : Level) : Bool :=
  t.level.any fun most => l.rank ≤ most.rank

end Threshold

/-- A record as a line of text. The details of a program's work are told with
the part of the program that they come from. -/
def Entry.line (e : Entry) : String :=
  let place :=
    match e.level with
    | .error | .warn | .info => ""
    | .debug | .trace => "(1) " ++ e.origin.path ++ ": "
  " [" ++ e.level.title ++ "] " ++ place ++ e.message ++ "\n"

/-- The records that a threshold shows, a line each. -/
def lines (t : Threshold) (es : List Entry) : String :=
  String.join ((es.filter fun e => t.shows e.level).map Entry.line)

end SceneSelector.Log
