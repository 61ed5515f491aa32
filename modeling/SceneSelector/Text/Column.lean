/-!
# Text columns

Left-aligned columns: a text shorter than its column is filled up with
spaces, a longer one is left whole. Widths count characters.
-/

namespace SceneSelector.Column

/-- `text` at the left of a column of `width` characters. -/
def left (width : Nat) (text : String) : String :=
  text ++ String.ofList (List.replicate (width - text.length) ' ')

end SceneSelector.Column
