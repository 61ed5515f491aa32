import SceneSelector.Query

/-!
# Queries as data

`Data` is what both data formats can write: nothing, texts, lists, and
records of named fields, whose order counts. `Query.toData` is a query in
that form. A chain of compounds becomes a record of the first compound with
the rest of the chain inside it.
-/

namespace SceneSelector

inductive Data where
  | null
  | text (s : String)
  | list (items : List Data)
  | record (fields : List (String × Data))
deriving Repr

namespace Data

/-- A value of several kinds: its kind, and its content if it has any. -/
def kinded (kind : String) (content : List (String × Data)) : Data :=
  record (("kind", text kind) :: content)

end Data

def Target.toData : Target → Data
  | type name => .kinded "type" [("name", .text name)]
  | any => .kinded "any" []
  | unspecified => .kinded "unspecified" []

def Selector.toData : Selector → Data
  | byId name => .kinded "id" [("name", .text name)]
  | byClass name => .kinded "class" [("name", .text name)]

def Value.toData : Value → Data
  | identifier s => .kinded "identifier" [("value", .text s)]
  | digits s => .kinded "digits" [("value", .text s)]
  | string s => .kinded "string" [("value", .text s)]

def PseudoClass.toData (p : PseudoClass) : Data :=
  .record [("name", .text p.name), ("args", .list (p.args.map Value.toData))]

def Attribute.toData (a : Attribute) : Data :=
  .record [("key", .text a.key), ("value", a.value.toData)]

/-- The fields of a compound, without the one for what follows it. -/
def Compound.fields (c : Compound) : List (String × Data) :=
  [("target", c.target.toData),
   ("selectors", .list (c.selectors.map Selector.toData)),
   ("pseudo_class", (c.pseudoClass.map PseudoClass.toData).getD .null),
   ("attributes", .list (c.attributes.map Attribute.toData))]

def Combinator.toData : Combinator → Data
  | child => .text "child"
  | descendant => .text "descendant"

def Query.toData : Query → Data
  | single c => .record (c.fields ++ [("sub_query", .null)])
  | link c k rest =>
    .record (c.fields ++
      [("sub_query", .record [("combinator", k.toData), ("query", rest.toData)])])

end SceneSelector
