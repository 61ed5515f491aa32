import SceneSelector.Cursor

/-!
# Cursors over shared buffers

A pool numbers its cursors in the order they were made and remembers which
buffer each of them reads. A duplicate reads the same buffer as its model
from then on independently; a fresh cursor has a copy of the tokens, which
is a buffer of its own.
-/

namespace SceneSelector

/-- One cursor and the number of the buffer it reads. -/
structure Reader where
  buffer : Nat
  cursor : Cursor
deriving DecidableEq, Repr

structure Pool where
  readers : List Reader
deriving DecidableEq, Repr

namespace Pool

/-- A pool of one cursor, before the first token. -/
def ofTokens (tokens : List Token) : Pool :=
  ⟨[⟨0, .ofTokens tokens⟩]⟩

def cursor? (p : Pool) (i : Nat) : Option Cursor :=
  p.readers[i]?.map Reader.cursor

/-- The position of every cursor. -/
def positions (p : Pool) : List Nat :=
  p.readers.map (·.cursor.position)

/-- Read a token with one cursor; no other cursor moves. -/
def scan? (p : Pool) (i : Nat) : Option (Token × Pool) :=
  p.readers[i]?.map fun r =>
    let (token, moved) := r.cursor.scan
    (token, ⟨p.readers.set i { r with cursor := moved }⟩)

/-- Add a cursor on the same buffer, at the same position. -/
def duplicate (p : Pool) (i : Nat) : Pool :=
  ⟨p.readers ++ p.readers[i]?.toList⟩

/-- Add a cursor before the first token of a copy of the buffer. The number
of cursors so far is a number that no buffer has yet. -/
def fresh (p : Pool) (i : Nat) : Pool :=
  ⟨p.readers ++ p.readers[i]?.toList.map fun r =>
    ⟨p.readers.length, .ofTokens r.cursor.tokens⟩⟩

/-- Two cursors read the very same buffer. -/
def shareBuffer (p : Pool) (i j : Nat) : Bool :=
  match p.readers[i]?, p.readers[j]? with
  | some a, some b => a.buffer = b.buffer
  | _, _ => false

end Pool

end SceneSelector
