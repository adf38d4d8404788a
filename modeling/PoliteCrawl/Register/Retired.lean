set_option autoImplicit false

namespace PoliteCrawl

abbrev Retired := List String

namespace Retired

def insert (key : String) : Retired → Retired
  | [] => [key]
  | first :: rest =>
      if key < first then key :: first :: rest
      else if key = first then first :: rest
      else first :: insert key rest

end Retired

end PoliteCrawl
