import Gatehouse.Filter.Pipeline
import Gatehouse.Settings.Load

/-!
# The command line

The program is told on its command line which settings file to look at. It answers with a report
of what the settings describe, or with what is wrong with them.
-/

namespace Gatehouse

inductive Command where
  | inspect (file : String)
  | help
  | version
  deriving DecidableEq, Repr

inductive UsageError where
  | missingValue (option : String)
  | unexpected (word : String)
  | repeated (option : String)
  deriving DecidableEq, Repr

def UsageError.message : UsageError → String
  | .missingValue option => s!"error: a value is required for '{option} <CONFIG>'"
  | .unexpected word => s!"error: unexpected argument '{word}' found"
  | .repeated option => s!"error: the argument '{option} <CONFIG>' cannot be used multiple times"

namespace Command

/-- The settings file that is looked at when none is named. -/
def defaultFile : String := "filters.toml"

/-- Reads the words of a command line, given the file that was named so far. -/
def parseFrom (file : Option String) : List String → Except UsageError Command
  | [] => .ok (.inspect (file.getD defaultFile))
  | "-h" :: _ | "--help" :: _ => .ok .help
  | "-V" :: _ | "--version" :: _ => .ok .version
  | "-c" :: rest | "--config" :: rest =>
    match file, rest with
    | some _, _ => .error (.repeated "--config")
    | none, [] => .error (.missingValue "--config")
    | none, name :: rest => parseFrom (some name) rest
  | word :: _ => .error (.unexpected word)

def parse (words : List String) : Except UsageError Command := parseFrom none words

end Command

def usage : String :=
  "Filter pipeline server with CSRF prevention\n\n" ++
  "Usage: gatehouse [OPTIONS]\n\n" ++
  "Options:\n" ++
  "  -c, --config <CONFIG>  Path to the TOML configuration file [default: filters.toml]\n" ++
  "  -h, --help             Print help\n" ++
  "  -V, --version          Print version"

def versionText : String := "gatehouse 0.1.0"

/-- The lines that report on settings and on the pipeline that they describe. -/
def report (s : Settings) (pipeline : Pipeline BuiltinFilter) : List String :=
  [s!"Configuration loaded: bind_address={s.listener.bindAddress} filters={s.filters.length} " ++
    s!"mappings={s.rules.length} request_timeout_secs={s.limits.requestTimeoutSecs}",
   s!"Filter pipeline built: filters={pipeline.filterCount} mappings={pipeline.rules.length}"]

/-- What the program has to say about a settings file, given its bytes if it exists. A missing
file stands for the settings with every default. -/
def inspectFile (file : String) (bytes : Option (List UInt8)) : Except String (List String) := do
  let (notice, settings) ← match bytes with
    | none => pure ([s!"Config file not found, using defaults: {file}"], ({} : Settings))
    | some bytes =>
      match Settings.load (some bytes) with
      | .error cause => throw cause.message
      | .ok settings => pure ([], settings)
  match Pipeline.ofSettings settings with
  | .error cause => throw cause.message
  | .ok pipeline => return notice ++ report settings pipeline

end Gatehouse
