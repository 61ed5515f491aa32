/-!
# Identifiers

An identifier is an ASCII letter or underscore, followed by ASCII letters,
digits, underscores and dashes. Letters and digits beyond ASCII are in
neither class.
-/

namespace SceneSelector.Identifier

/-- What an identifier may start with. -/
def isStart (c : Char) : Bool :=
  c.isAlpha || c = '_'

/-- What an identifier may go on with. -/
def isRest (c : Char) : Bool :=
  c.isAlphanum || c = '_' || c = '-'

/-- The whole of a text is one identifier. -/
def isIdentifier (text : String) : Bool :=
  match text.toList with
  | [] => false
  | c :: rest => isStart c && rest.all isRest

end SceneSelector.Identifier
