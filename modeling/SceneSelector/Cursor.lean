import SceneSelector.Token

/-!
# Cursors

A cursor is a position in a list of tokens that never changes. Reading past
the last token yields the end-of-input sentinel and stays where it is.
-/

namespace SceneSelector

namespace Buffer

/-- The byte after the last token. -/
def endOffset (tokens : List Token) : Nat :=
  match tokens.getLast? with
  | some t => t.span.stop
  | none => 0

/-- The token at a position, or the sentinel. -/
def read (tokens : List Token) (position : Nat) : Token :=
  match tokens[position]? with
  | some t => t
  | none => .endOfInput (endOffset tokens)

/-- The position after reading one token. -/
def next (tokens : List Token) (position : Nat) : Nat :=
  if position < tokens.length then position + 1 else position

end Buffer

structure Cursor where
  tokens : List Token
  position : Nat
deriving DecidableEq, Repr

namespace Cursor

/-- A cursor before the first token. -/
def ofTokens (tokens : List Token) : Cursor :=
  ⟨tokens, 0⟩

/-- Read the token under the cursor and move past it. -/
def scan (c : Cursor) : Token × Cursor :=
  (Buffer.read c.tokens c.position,
    { c with position := Buffer.next c.tokens c.position })

/-- The token under the cursor, if one is left. -/
def peek? (c : Cursor) : Option Token :=
  c.tokens[c.position]?

def isAtEnd (c : Cursor) : Bool :=
  c.tokens.length ≤ c.position

/-- The cursor after `count` tokens have been read. -/
def scanned (c : Cursor) : Nat → Cursor
  | 0 => c
  | count + 1 => c.scan.2.scanned count

end Cursor

end SceneSelector
