/-!
# Quoted text

A quoted text stands between double quotes. A quote, a backslash, a line
feed and a tab inside it are written as a backslash and one character; every
other character stands for itself. Reading takes a backslash and any
character after it, so it undoes every written form (`unescape_escaped`)
and also accepts needless escapes such as `\a`.
-/

namespace SceneSelector.Quoted

/-- The written form of one character inside the quotes. -/
def escape (c : Char) : List Char :=
  if c = '"' then ['\\', '"']
  else if c = '\\' then ['\\', '\\']
  else if c = '\n' then ['\\', 'n']
  else if c = '\t' then ['\\', 't']
  else [c]

/-- The written form of a text, without the quotes around it. -/
def escaped (text : List Char) : List Char :=
  text.flatMap escape

/-- The character that a backslash and `c` stand for. -/
def escapedBy (c : Char) : Char :=
  if c = 'n' then '\n' else if c = 't' then '\t' else c

/-- The text that a written form stands for. A backslash at its very end,
which no complete string has, stands for itself. -/
def unescape : List Char → List Char
  | [] => []
  | ['\\'] => ['\\']
  | '\\' :: c :: rest => escapedBy c :: unescape rest
  | c :: rest => c :: unescape rest

/-- `text` as a string literal. -/
def quote (text : String) : String :=
  String.ofList ('"' :: escaped text.toList ++ ['"'])

theorem unescape_backslash (c : Char) (rest : List Char) :
    unescape ('\\' :: c :: rest) = escapedBy c :: unescape rest := by
  cases rest <;> simp [unescape]

theorem unescape_plain {c : Char} (hc : c ≠ '\\') (rest : List Char) :
    unescape (c :: rest) = c :: unescape rest := by
  cases rest <;> simp [unescape, hc]

theorem unescape_escape_append (c : Char) (rest : List Char) :
    unescape (escape c ++ rest) = c :: unescape rest := by
  unfold escape
  split
  · next h => simp [unescape_backslash, escapedBy, h]
  split
  · next h => simp [unescape_backslash, escapedBy, h]
  split
  · next h => simp [unescape_backslash, escapedBy, h]
  split
  · next h => simp [unescape_backslash, escapedBy, h]
  · next h _ _ => exact unescape_plain h rest

/-- Reading undoes writing, for every text. -/
theorem unescape_escaped (text : List Char) : unescape (escaped text) = text := by
  induction text with
  | nil => rfl
  | cons c rest ih =>
    rw [escaped, List.flatMap_cons, unescape_escape_append]
    exact congrArg _ ih

end SceneSelector.Quoted
