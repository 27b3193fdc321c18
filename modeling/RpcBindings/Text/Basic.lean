/-!
# Texts

Functions on lists of characters, applied to strings.
-/

namespace RpcBindings.Text

/-- A function on lists of characters, applied to a string. -/
def through (f : List Char → List Char) (s : String) : String :=
  String.ofList (f s.toList)

end RpcBindings.Text
