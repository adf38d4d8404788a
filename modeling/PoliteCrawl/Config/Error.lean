set_option autoImplicit false

namespace PoliteCrawl

inductive ConfigError where
  | unreadable (reason : String)
  | malformed (reason : String)
  | invalid (reason : String)
  | badUrl (reason : String)
  | badDomain (reason : String)
deriving DecidableEq, Repr

def ConfigError.message : ConfigError → String
  | .unreadable reason => "Failed to read config file: " ++ reason
  | .malformed reason => "Failed to parse TOML: " ++ reason
  | .invalid reason => "Validation error: " ++ reason
  | .badUrl reason => "Invalid URL in config: " ++ reason
  | .badDomain reason => "Invalid domain pattern: " ++ reason

end PoliteCrawl
