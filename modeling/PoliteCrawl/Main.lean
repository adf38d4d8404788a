import PoliteCrawl.Command.Run
import Std.Time.DateTime.Timestamp

set_option autoImplicit false

namespace PoliteCrawl.Main

def readContent (path : String) : IO Config.FileContent := do
  try
    return some (← IO.FS.readBinFile path)
  catch _ =>
    return none

def configPath? (arguments : List String) : Option String :=
  match Command.readArguments arguments with
  | .ok (.crawl options) => some options.configPath
  | _ => none

def readConfig (arguments : List String) : IO Config.FileContent :=
  match configPath? arguments with
  | some path => readContent path
  | none => return none

def currentTime : IO Time.Timestamp := do
  let now ← Std.Time.Timestamp.now
  let nanos := now.toNanosecondsSinceUnixEpoch.val
  return { seconds := nanos.fdiv 1000000000, nanos := (nanos.emod 1000000000).toNat }

end PoliteCrawl.Main

def main (arguments : List String) : IO UInt32 := do
  let file ← PoliteCrawl.Main.readConfig arguments
  let result := PoliteCrawl.Command.run arguments (fun _ => file) (← PoliteCrawl.Main.currentTime)
  (← IO.getStdout).putStr result.output
  (← IO.getStderr).putStr result.complaint
  return UInt32.ofNat result.status
