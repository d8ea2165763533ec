/-!
TOML values. A table keeps its fields in the order in which they were written; dates and times are
kept as their text.
-/

namespace LivePages

inductive Toml
  | str (s : String)
  | int (i : Int)
  | float (x : Float)
  | bool (b : Bool)
  | moment (text : String)
  | arr (items : List Toml)
  | table (fields : List (String × Toml))
  deriving Inhabited

end LivePages
