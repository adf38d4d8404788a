import PoliteCrawl.Config.Check
import PoliteCrawl.Config.Decode
import PoliteCrawl.Digest.Sha256
import PoliteCrawl.Toml.Reader

set_option autoImplicit false

namespace PoliteCrawl.Config

def ofEntries (entries : Toml.Entries) : Except ConfigError Config :=
  match decode? entries with
  | none => .error (.malformed "a value of the wrong type")
  | some config => do
      check config
      .ok config

def parse (text : String) : Except ConfigError Config :=
  match Toml.read? text with
  | none => .error (.malformed "not well-formed")
  | some entries => ofEntries entries

abbrev FileContent := Option ByteArray

def readText (file : FileContent) : Except ConfigError String :=
  match file with
  | none => .error (.unreadable "No such file or directory (os error 2)")
  | some bytes =>
      match String.fromUTF8? bytes with
      | none => .error (.unreadable "stream did not contain valid UTF-8")
      | some text => .ok text

def load (file : FileContent) : Except ConfigError Config := do
  let text ← readText file
  parse text

def hash (file : FileContent) : Except ConfigError String := do
  let text ← readText file
  .ok (Digest.Sha256.text text.toUTF8.toList)

def loadWithHash (file : FileContent) : Except ConfigError (Config × String) := do
  let config ← load file
  let digest ← hash file
  .ok (config, digest)

end PoliteCrawl.Config
