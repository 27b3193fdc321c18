/-!
# Lists in prose

Names as an English enumeration.
-/

namespace RpcBindings.Text

/-- `a`, `a or b`, `a, b, or c`. -/
def enumerate (conjunction : String) : List String → String
  | [] => ""
  | [a] => a
  | [a, b] => a ++ " " ++ conjunction ++ " " ++ b
  | items => ", ".intercalate items.dropLast ++ ", " ++ conjunction ++ " " ++ items.getLastD ""

end RpcBindings.Text
