/-!
# TOML values

What a settings file says, once its notation is resolved. Floats, dates and times are told apart
from the rest but not kept, since no setting takes one.
-/

namespace CandleRelay.Toml

/-- A value. Keys of a table stand in the order of their first mention. -/
inductive Value where
  | text (s : String)
  | integer (n : Int)
  | float
  | boolean (b : Bool)
  | datetime
  | array (items : List Value)
  | table (entries : List (String × Value))
  deriving Repr, Inhabited

end CandleRelay.Toml
