import SceneSelector.Decimal.Binary
import SceneSelector.Text.Case

/-!
# Settings as trees

What files and single overrides say is a tree of tables, lists and scalars.
Putting one tree into another merges tables key by key and replaces all else;
a table also replaces whatever is not a table, once there is a key to put
into it. Keys are kept in small letters, so that they do not differ by case.
-/

namespace SceneSelector

/-- Where a value was set. -/
inductive Origin where
  | direct
  | file (name : String)
deriving DecidableEq, Repr

inductive Scalar where
  | nothing
  | truth (b : Bool)
  | whole (n : Int)
  | real (x : Binary)
  | text (s : String)
deriving DecidableEq, Repr

/-- The origin of a table is where it was begun; its entries may come from
elsewhere. -/
inductive Setting where
  | scalar (origin : Origin) (value : Scalar)
  | list (origin : Origin) (items : List Setting)
  | table (origin : Origin) (entries : List (String × Setting))
deriving Repr

namespace Setting

/-- What stands where no value has been set. -/
def nothing : Setting :=
  scalar .direct .nothing

instance : Inhabited Setting :=
  ⟨nothing⟩

def empty : Setting :=
  table .direct []

/-- The entries of a table; what is not a table has none. -/
def entries : Setting → List (String × Setting)
  | table _ es => es
  | scalar _ _ | list _ _ => []

/-- The items of a list; what is not a list has none. -/
def items : Setting → List Setting
  | list _ vs => vs
  | scalar _ _ | table _ _ => []

/-- The entry of a key. -/
def get? (s : Setting) (key : String) : Option Setting :=
  s.entries.lookup key

/-- Entries with `value` for `key`, in the place of an old entry or last. -/
def insertEntry (key : String) (value : Setting) :
    List (String × Setting) → List (String × Setting)
  | [] => [(key, value)]
  | (k, v) :: es =>
    if k = key then (key, value) :: es else (k, v) :: insertEntry key value es

/-- A table with `value` for `key`. What is not a table is given up. -/
def insert (s : Setting) (key : String) (value : Setting) : Setting :=
  match s with
  | table origin es => table origin (insertEntry key value es)
  | scalar _ _ | list _ _ => table .direct [(key, value)]

mutual

/-- Put a value under a key: a table is merged into what is there, anything
else takes its place. -/
def put (s : Setting) (key : String) : Setting → Setting
  | table _ incoming =>
    let key := Case.small key
    s.insert key (putAll ((s.get? key).getD empty) incoming)
  | scalar origin value => s.insert (Case.small key) (scalar origin value)
  | list origin values => s.insert (Case.small key) (list origin values)
termination_by structural value => value

/-- Put all entries of a table. -/
def putAll (s : Setting) : List (String × Setting) → Setting
  | [] => s
  | e :: es => putAll (putEntry s e) es
termination_by structural es => es

def putEntry (s : Setting) : String × Setting → Setting
  | (key, value) => put s key value
termination_by structural e => e

end

end Setting

end SceneSelector
