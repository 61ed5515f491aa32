import SceneSelector.Setting
import SceneSelector.Setting.Toml.Moment

/-!
# TOML: tables under construction

A document may speak of a table more than once: in passing, on the way to one
of its parts, by dotted keys, or by a header of its own. `Node` remembers how
a table came about, because that decides what may still be added to it.

- A header may take up a table that was only implied by another header.
- A dotted key may add to tables made by dotted keys or implied by headers,
  but its last key must land in a table made by dotted keys.
- No key is set twice, and values, inline tables among them, are complete.

Once a document has been read, its nodes become settings. Dates and times
become texts, and there is a second form for them: a table that begins with a
certain key stands for the date or time in the string under it.
-/

namespace SceneSelector.Toml

inductive TableKind where
  /-- Made on the way to a part of it by a header. -/
  | implied
  /-- Made on the way to a part of it by a dotted key. -/
  | dotted
  /-- Made by its own header. -/
  | headed
  /-- Written as one value. -/
  | inline
deriving DecidableEq, Repr

inductive Node where
  | scalar (value : Scalar)
  /-- A date, a time or both, in their one spelling. -/
  | moment (spelling : String)
  | list (items : List Node)
  | table (kind : TableKind) (entries : List (String × Node))
  /-- A list of tables with headers of their own, all but the last complete. -/
  | tables (earlier : List (List (String × Node))) (last : List (String × Node))
deriving Repr

abbrev Entries := List (String × Node)

namespace Node

/-- Entries with `node` for `key`, in the place of an old entry or last. -/
def place (key : String) (node : Node) : Entries → Entries
  | [] => [(key, node)]
  | (k, n) :: es =>
    if k = key then (key, node) :: es else (k, n) :: place key node es

/-- Entries with `node` for `key` last, wherever an old entry was. -/
def placeLast (key : String) (node : Node) (es : Entries) : Entries :=
  es.filter (·.1 != key) ++ [(key, node)]

/-- Set the value of a key that dotted keys lead to. -/
def setValue? (key : String) (value : Node) :
    (path : List String) → Entries → Option Entries
  | [], es =>
    match es.lookup key with
    | some _ => none
    | none => some (es ++ [(key, value)])
  | k :: ks, es =>
    match es.lookup k with
    | none => do return place k (table .dotted (← setValue? key value ks [])) es
    | some (table .dotted inside) => do
      return place k (table .dotted (← setValue? key value ks inside)) es
    | some (table .implied inside) => do
      if ks.isEmpty then none
      else return place k (table .implied (← setValue? key value ks inside)) es
    | some (tables earlier last) => do
      if ks.isEmpty then none
      else return place k (tables earlier (← setValue? key value ks last)) es
    | some (table .headed _) | some (table .inline _) => none
    | some (scalar _) | some (moment _) | some (list _) => none

/-- Change the entries of the table or of the last of the tables that a node
is, unless it is complete. -/
def changeInside? (f : Entries → Option Entries) : Node → Option Node
  | table .inline _ | scalar _ | moment _ | list _ => none
  | table kind inside => do return table kind (← f inside)
  | tables earlier last => do return tables earlier (← f last)

/-- Open the table of a header. A table that was implied so far moves to the
end of the table around it. -/
def openTable? : (path : List String) → Entries → Option Entries
  | [], _ => none
  | [k], es =>
    match es.lookup k with
    | none => some (place k (table .headed []) es)
    | some (table .implied inside) => some (placeLast k (table .headed inside) es)
    | some _ => none
  | k :: ks, es =>
    match es.lookup k with
    | none => do return place k (table .implied (← openTable? ks [])) es
    | some node => do return place k (← changeInside? (openTable? ks) node) es

/-- Open one more table of a list of tables. -/
def openItem? : (path : List String) → Entries → Option Entries
  | [], _ => none
  | [k], es =>
    match es.lookup k with
    | none => some (place k (tables [] []) es)
    | some (tables earlier last) => some (place k (tables (earlier ++ [last]) []) es)
    | some _ => none
  | k :: ks, es =>
    match es.lookup k with
    | none => do return place k (table .implied (← openItem? ks [])) es
    | some node => do return place k (← changeInside? (openItem? ks) node) es

/-- Change the entries of the table that was opened last. -/
def inTable? (f : Entries → Option Entries) :
    (path : List String) → Entries → Option Entries
  | [], es => f es
  | k :: ks, es => do
    return place k (← changeInside? (inTable? f ks) (← es.lookup k)) es

/-! ## Settings -/

/-- The key that a table for a date or time begins with. -/
def momentKey : String :=
  "$__toml_private_datetime"

/-- The spelling of the date or time in a string. -/
def momentIn? : Node → Option String
  | scalar (.text s) => (moment? .inString s.toList).map String.ofList
  | scalar _ | moment _ | list _ | table _ _ | tables _ _ => none

mutual

/-- The setting that a node has become, unless a table is begun as a date or
time and holds none. -/
def toSetting? (origin : Origin) : Node → Option Setting
  | scalar value => some (.scalar origin value)
  | moment spelling => some (.scalar origin (.text spelling))
  | list items => do return .list origin (← listToSettings? origin items)
  | table _ es => tableToSetting? origin es
  | tables earlier last => do
    let earlier ← tablesToSettings? origin earlier
    return .list origin (earlier ++ [← tableToSetting? origin last])
termination_by structural n => n

def listToSettings? (origin : Origin) : List Node → Option (List Setting)
  | [] => some []
  | n :: ns => do
    return (← toSetting? origin n) :: (← listToSettings? origin ns)
termination_by structural l => l

def tablesToSettings? (origin : Origin) : List Entries → Option (List Setting)
  | [] => some []
  | es :: rest => do
    return (← tableToSetting? origin es) :: (← tablesToSettings? origin rest)
termination_by structural l => l

/-- What a table for a date or time holds after its first key does not
count. -/
def tableToSetting? (origin : Origin) : Entries → Option Setting
  | [] => some (.table origin [])
  | e :: es =>
    if e.1 = momentKey then
      (momentIn? e.2).map fun spelling => .scalar origin (.text spelling)
    else do
      return .table origin
        ((← entryToSetting? origin e) :: (← entriesToSettings? origin es))
termination_by structural es => es

def entriesToSettings? (origin : Origin) :
    Entries → Option (List (String × Setting))
  | [] => some []
  | e :: es => do
    return (← entryToSetting? origin e) :: (← entriesToSettings? origin es)
termination_by structural es => es

def entryToSetting? (origin : Origin) :
    String × Node → Option (String × Setting)
  | (k, n) => do return (k, ← toSetting? origin n)
termination_by structural e => e

end

end Node

end SceneSelector.Toml
