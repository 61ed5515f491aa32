import SceneSelector.Setting.Toml.Moment
import SceneSelector.Setting.Toml.Node
import SceneSelector.Setting.Toml.Number
import SceneSelector.Setting.Toml.Text

/-!
# TOML documents

A document is a list of lines: keys with their values, and headers that open
the table which the following keys belong to. A value may run over several
lines. A document is read as a whole or refused; the reason is not kept.
-/

namespace SceneSelector.Toml

/-! ## Values -/

/-- What words are made of. No value may be followed by one of these, so a
word is taken whole before it is looked at. -/
def isWordChar (c : Char) : Bool :=
  c.isAlphanum || c = '+' || c = '-' || c = '_' || c = '.' || c = ':'

/-- A word and, if it is a date and a time follows after a space, the time. -/
def word (text : List Char) : List Char × List Char :=
  let first := text.takeWhile isWordChar
  let rest := text.dropWhile isWordChar
  match (date? first).map Prod.snd, rest with
  | some [], ' ' :: c :: rest =>
    if c.isDigit then
      (first ++ ' ' :: c :: rest.takeWhile isWordChar, rest.dropWhile isWordChar)
    else (first, ' ' :: c :: rest)
  | _, _ => (first, rest)

/-- The value that a word is. -/
def ofWord? (w : List Char) : Option Node :=
  if w = "true".toList then some (.scalar (.truth true))
  else if w = "false".toList then some (.scalar (.truth false))
  else
    ((moment? .bare w).map fun spelling => .moment (String.ofList spelling)).or
      (((real? w).map fun x => .scalar (.real x)).or
        ((whole? w).map fun n => .scalar (.whole n)))

/-- The items of a list, up to its closing bracket. -/
def items? (item? : List Char → Option (Node × List Char)) :
    (fuel : Nat) → List Char → Option (List Node × List Char)
  | 0, _ => none
  | fuel + 1, text =>
    match skipGaps false text with
    | ']' :: rest => some ([], rest)
    | text => do
      let (first, rest) ← item? text
      match skipGaps false rest with
      | ',' :: rest =>
        let (others, rest) ← items? item? fuel rest
        return (first :: others, rest)
      | ']' :: rest => return ([first], rest)
      | _ => none

/-- A key, `=` and a value. -/
def keyAndValue? (value? : List Char → Option (Node × List Char))
    (text : List Char) : Option ((List String × Node) × List Char) := do
  let (path, rest) ← key? depthLimit text
  match rest with
  | '=' :: rest =>
    let (value, rest) ← value? (skipBlanks rest)
    return ((path, value), rest)
  | _ => none

/-- Set a value under a key of one part or several. -/
def setKey? (path : List String) (value : Node) (es : Entries) :
    Option Entries := do
  Node.setValue? (← path.getLast?) value path.dropLast es

/-- The entries of an inline table up to its closing bracket, added to those
that have been read. -/
def inlineEntries? (value? : List Char → Option (Node × List Char)) :
    (fuel : Nat) → Entries → List Char → Option (Entries × List Char)
  | 0, _, _ => none
  | fuel + 1, es, text => do
    let ((path, value), rest) ← keyAndValue? value? text
    let es ← setKey? path value es
    match skipBlanks rest with
    | ',' :: rest => inlineEntries? value? fuel es rest
    | '\x7d' :: rest => return (es, rest)
    | _ => none

/-- A value, in which lists and tables are nested up to a depth. -/
def value? : (depth : Nat) → List Char → Option (Node × List Char)
  -- no list or table may be nested deeper
  | 0, '[' :: _ | 0, '\x7b' :: _ => none
  | depth + 1, '[' :: rest => do
    let (items, rest) ← items? (value? depth) (rest.length + 1) rest
    return (.list items, rest)
  | depth + 1, '\x7b' :: rest =>
    match skipBlanks rest with
    | '\x7d' :: rest => some (.table .inline [], rest)
    | text => do
      let (es, rest) ← inlineEntries? (value? depth) (rest.length + 1) [] text
      return (.table .inline es, rest)
  | _, text =>
    match anyString? text with
    | some (body, rest) => some (.scalar (.text (String.ofList body)), rest)
    | none => do
      let (w, rest) := word text
      return (← ofWord? w, rest)

/-! ## Lines -/

/-- A document that is being read: what it says so far, and the table that
keys belong to. -/
structure Document where
  entries : Entries
  table : List String

/-- A header of `brackets` brackets on either side. -/
def header? (brackets : Nat) (text : List Char) :
    Option (List String × List Char) := do
  let (path, rest) ← key? depthLimit (text.drop brackets)
  if rest.take brackets = List.replicate brackets ']' then
    return (path, rest.drop brackets)
  else none

/-- One line or one value of several. -/
def line? (doc : Document) (text : List Char) :
    Option (Document × List Char) :=
  match skipBlanks text with
  | '[' :: '[' :: rest => do
    let (path, rest) ← header? 2 ('[' :: '[' :: rest)
    let entries ← Node.openItem? path doc.entries
    return (⟨entries, path⟩, ← finishLine? rest)
  | '[' :: rest => do
    let (path, rest) ← header? 1 ('[' :: rest)
    let entries ← Node.openTable? path doc.entries
    return (⟨entries, path⟩, ← finishLine? rest)
  | text =>
    match finishLine? text with
    | some rest => some (doc, rest)
    | none => do
      let ((path, value), rest) ← keyAndValue? (value? depthLimit) text
      let entries ←
        Node.inTable? (setKey? path value) doc.table doc.entries
      return (⟨entries, doc.table⟩, ← finishLine? rest)

/-- The lines of a text shorter than `fuel`. -/
def lines? : (fuel : Nat) → Document → List Char → Option Document
  | _, doc, [] => some doc
  | 0, _, _ => none
  | fuel + 1, doc, text => do
    let (doc, rest) ← line? doc text
    lines? fuel doc rest

/-- A byte order mark at the beginning does not belong to the text. -/
def skipMark : List Char → List Char
  | '\ufeff' :: rest => rest
  | text => text

/-- The entries of a document from `origin`. The document as a whole must be
a table, and no date or time. -/
def read? (origin : Origin) (text : String) : Option (List (String × Setting)) := do
  let text := skipMark text.toList
  let doc ← lines? (text.length + 1) ⟨[], []⟩ text
  match ← Node.tableToSetting? origin doc.entries with
  | .table _ es => some es
  | .scalar _ _ | .list _ _ => none

end SceneSelector.Toml
