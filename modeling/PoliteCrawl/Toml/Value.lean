import PoliteCrawl.Number.Binary64

set_option autoImplicit false

namespace PoliteCrawl.Toml

-- Of a date or a time it only matters that there is one.
inductive Value where
  | string (text : String)
  | integer (value : Int)
  | float (value : Number.Binary64)
  | boolean (value : Bool)
  | moment
  | array (values : List Value)
  | table (entries : List (String × Value))
deriving Repr

abbrev Entries := List (String × Value)

def Entries.get? (entries : Entries) (key : String) : Option Value :=
  (entries.find? (·.1 == key)).map (·.2)

end PoliteCrawl.Toml
