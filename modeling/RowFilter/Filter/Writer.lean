import RowFilter.Filter
import RowFilter.Json.Writer
/-!
# Writing filters

`Filter.toJson` writes a filter as the document it can be read from, every field written
out.
-/
namespace RowFilter

def Condition.toJson (c : Condition) : Json :=
  .obj [("columnId", .str c.columnId), ("operator", .str c.operator), ("value", c.value),
    ("isSymbol", .bool c.isSymbol)]

namespace Filter

mutual

def toJson : Filter → Json
  | .leaf c => c.toJson
  | .group c ts => .obj [("conjunction", .str c.name), ("children", .arr (toJsons ts))]

def toJsons : List Filter → List Json
  | [] => []
  | t :: ts => toJson t :: toJsons ts

end

def text (f : Filter) : String := f.toJson.text

end Filter

end RowFilter
