import SceneCode.Number.Binary64

/-!
# JSON documents

The members of an object keep their order.  Integers are kept exactly and apart from the other
numbers.
-/

set_option autoImplicit false

namespace SceneCode

inductive Json where
  | null
  | bool (value : Bool)
  | int (value : Int)
  | float (value : Number.Binary64)
  | str (value : String)
  | arr (items : List Json)
  | obj (members : List (String × Json))

end SceneCode
