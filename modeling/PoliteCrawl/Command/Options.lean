set_option autoImplicit false

namespace PoliteCrawl.Command

inductive ReportFormat where
  | text
  | toml
deriving DecidableEq, Repr

structure Options where
  configPath : String
  verbosity : Nat
  quiet : Bool
  dryRun : Bool
  format : ReportFormat
deriving DecidableEq, Repr

inductive Request where
  | help
  | version
  | crawl (options : Options)
deriving DecidableEq, Repr

inductive UsageError where
  | unknownArgument (argument : String)
  | repeatedOption (option : String)
  | missingValue (option : String)
  | badValue (option value : String)
  | conflict (first second : String)
  | missingPath
deriving DecidableEq, Repr

def UsageError.message : UsageError → String
  | .unknownArgument argument => "unexpected argument '" ++ argument ++ "' found"
  | .repeatedOption option => "the argument '" ++ option ++ "' cannot be used multiple times"
  | .missingValue option => "a value is required for '" ++ option ++ "' but none was supplied"
  | .badValue option value => "invalid value '" ++ value ++ "' for '" ++ option ++ "'"
  | .conflict first second =>
      "the argument '" ++ first ++ "' cannot be used with '" ++ second ++ "'"
  | .missingPath => "the following required arguments were not provided: <CONFIG>"

structure Found where
  path : Option String
  verbosity : Nat
  quiet : Bool
  dryRun : Bool
  format : Option ReportFormat
deriving DecidableEq, Repr

namespace Found

def nothing : Found :=
  { path := none, verbosity := 0, quiet := false, dryRun := false, format := none }

def countVerbose (found : Found) : Found :=
  { found with verbosity := found.verbosity + 1 }

def setQuiet (found : Found) : Except UsageError Found :=
  if found.quiet then .error (.repeatedOption "--quiet") else .ok { found with quiet := true }

def setDryRun (found : Found) : Except UsageError Found :=
  if found.dryRun then .error (.repeatedOption "--dry-run") else .ok { found with dryRun := true }

def setFormat (found : Found) (value : String) : Except UsageError Found :=
  if found.format.isSome then .error (.repeatedOption "--format")
  else if value = "text" then .ok { found with format := some .text }
  else if value = "toml" then .ok { found with format := some .toml }
  else .error (.badValue "--format" value)

def setPath (found : Found) (argument : String) : Except UsageError Found :=
  if found.path.isSome then .error (.unknownArgument argument)
  else if argument = "" then .error (.missingValue "<CONFIG>")
  else .ok { found with path := some argument }

def request (found : Found) : Except UsageError Request :=
  match found.path with
  | none => .error .missingPath
  | some configPath =>
      if found.quiet && found.verbosity ≠ 0 then .error (.conflict "--quiet" "--verbose")
      else
        .ok (.crawl
          { configPath
            verbosity := found.verbosity
            quiet := found.quiet
            dryRun := found.dryRun
            format := found.format.getD .text })

end Found

inductive Argument where
  | endOfOptions
  | long (name : String) (value : Option String)
  | short (letters : List Char)
  | plain (text : String)
deriving DecidableEq, Repr

def splitValue (letters : List Char) : String × Option String :=
  match letters.dropWhile (· ≠ '=') with
  | [] => (String.ofList letters, none)
  | _ :: value => (String.ofList (letters.takeWhile (· ≠ '=')), some (String.ofList value))

def Argument.read (text : String) : Argument :=
  match text.toList with
  | ['-', '-'] => .endOfOptions
  | '-' :: '-' :: letters =>
      let (name, value) := splitValue letters
      .long name value
  | ['-'] => .plain text
  | '-' :: letters => .short letters
  | _ => .plain text

-- Reads a group of short options. One that asks for help or for the version cuts everything short.
def readShort (found : Found) : List Char → Except UsageError (Found ⊕ Request)
  | [] => .ok (.inl found)
  | 'v' :: rest => readShort found.countVerbose rest
  | 'q' :: rest => do
      let found ← found.setQuiet
      readShort found rest
  | 'h' :: _ => .ok (.inr .help)
  | 'V' :: _ => .ok (.inr .version)
  | letter :: _ => .error (.unknownArgument (String.ofList ['-', letter]))

def readLong (found : Found) (name : String) : Except UsageError (Found ⊕ Request) :=
  match name with
  | "verbose" => .ok (.inl found.countVerbose)
  | "quiet" => found.setQuiet.map .inl
  | "dry-run" => found.setDryRun.map .inl
  | "help" => .ok (.inr .help)
  | "version" => .ok (.inr .version)
  | _ => .error (.unknownArgument ("--" ++ name))

def readPlain (found : Found) : List String → Except UsageError Request
  | [] => found.request
  | argument :: rest => do
      let found ← found.setPath argument
      readPlain found rest

def valueOf? (argument : String) : Option String :=
  match Argument.read argument with
  | .plain text => some text
  | _ => none

def readFrom (found : Found) : List String → Except UsageError Request
  | [] => found.request
  | argument :: rest =>
      match Argument.read argument, rest with
      | .endOfOptions, rest => readPlain found rest
      | .long "format" (some value), rest => do
          let found ← found.setFormat value
          readFrom found rest
      | .long "format" none, value :: rest =>
          match valueOf? value with
          | some value => do
              let found ← found.setFormat value
              readFrom found rest
          | none => .error (.missingValue "--format")
      | .long "format" none, [] => .error (.missingValue "--format")
      | .long name (some value), _ => .error (.badValue ("--" ++ name) value)
      | .long name none, rest => do
          match ← readLong found name with
          | .inl found => readFrom found rest
          | .inr request => .ok request
      | .short letters, rest => do
          match ← readShort found letters with
          | .inl found => readFrom found rest
          | .inr request => .ok request
      | .plain text, rest => do
          let found ← found.setPath text
          readFrom found rest

def readArguments (arguments : List String) : Except UsageError Request :=
  readFrom Found.nothing arguments

end PoliteCrawl.Command
