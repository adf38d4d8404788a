import PoliteCrawl.Command.Options
import PoliteCrawl.Command.Text
import PoliteCrawl.Config.Load
import PoliteCrawl.Crawl.Run
import PoliteCrawl.Report.Text

set_option autoImplicit false

namespace PoliteCrawl.Command

structure Result where
  status : Nat
  output : String
  complaint : String
deriving DecidableEq, Repr

namespace Result

def success (output : String) : Result :=
  { status := 0, output, complaint := "" }

def failure (context cause : String) : Result :=
  { status := 1
    output := ""
    complaint := unlines ["Error: " ++ context, "", "Caused by:", "    " ++ cause] }

def misuse (cause : String) : Result :=
  { status := 2, output := "", complaint := unlines ["error: " ++ cause] }

end Result

def reportResult (format : ReportFormat) (snapshot : FrontierSnapshot) : Result :=
  match format with
  | .text => .success snapshot.text
  | .toml =>
      match snapshot.toToml with
      | .ok output => .success output
      | .error _ => .failure "failed to render report" Report.TooGreat.message

def crawlResult (format : ReportFormat) (config : Config) (origin : Time.Timestamp) : Result :=
  match Crawl.crawl config origin with
  | .ok snapshot => reportResult format snapshot
  | .error (.unfit cause) => .failure "crawl failed" cause.message
  | .error .restless => .failure "crawl failed" "max_sleep_ms is zero"

def runCrawl (options : Options) (file : Config.FileContent) (origin : Time.Timestamp) : Result :=
  match Config.load file with
  | .error cause => .failure ("failed to load " ++ options.configPath) cause.message
  | .ok config =>
      if options.dryRun then .success (dryRunText config)
      else crawlResult options.format config origin

def run (arguments : List String) (files : String → Config.FileContent) (origin : Time.Timestamp) :
    Result :=
  match readArguments arguments with
  | .error cause => .misuse cause.message
  | .ok .help => .success helpText
  | .ok .version => .success versionText
  | .ok (.crawl options) => runCrawl options (files options.configPath) origin

end PoliteCrawl.Command
