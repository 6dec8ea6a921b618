import RowFilter.Column
import RowFilter.Error
/-!
# The current user in filters

A placeholder in the value of a condition stands for the user who asks. It is replaced in
columns that may refer to users, and only there.

* `Json.mentions`: whether a value holds the placeholder.
* `Json.substitute`: the value with the actor in its place.
* `Condition.withActor`: both for a condition, with an error if there is no actor.
-/
namespace RowFilter

namespace Json

/-- Whether a value is the placeholder, alone or as the id of an object. -/
def isPlaceholder (placeholder : String) : Json → Bool
  | .str s => s = placeholder
  | .obj fields =>
    match find? "id" fields with
    | some (.str s) => s = placeholder
    | _ => false
  | _ => false

/-- Whether a value is the placeholder or a list with it among its elements. -/
def mentions (placeholder : String) : Json → Bool
  | .arr items => items.any (isPlaceholder placeholder)
  | j => isPlaceholder placeholder j

mutual

/-- The value with the actor in the place of the placeholder, also in lists within lists. -/
def substitute (placeholder actor : String) : Json → Json
  | .arr items => .arr (substituteAll placeholder actor items)
  | .str s => if s = placeholder then .str actor else .str s
  | .obj fields =>
    match find? "id" fields with
    | some (.str s) =>
      if s = placeholder then .obj (put "id" (.str actor) fields) else .obj fields
    | _ => .obj fields
  | j => j

def substituteAll (placeholder actor : String) : List Json → List Json
  | [] => []
  | j :: items => substitute placeholder actor j :: substituteAll placeholder actor items

end

end Json

namespace Condition

/-- The condition with the actor named in its value, if the column refers to users. -/
def withActor (c : Condition) (column : Column) (placeholder : String) (actor : Option String) :
    Except FilterError Condition :=
  if column.options.actorReference && c.value.mentions placeholder then
    match actor with
    | some actor => .ok { c with value := c.value.substitute placeholder actor }
    | none => .error (.missingActor column.id)
  else .ok c

end Condition

end RowFilter
