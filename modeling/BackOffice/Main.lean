import BackOffice.Console.Report
import BackOffice.Json.Indented
import Std.Time.DateTime.Timestamp

/-!
The command line: it reads the files that its arguments name, replays a workflow graph, and prints what
became of it.
-/

namespace BackOffice.Console

def usage : String := "Usage: xconsole [OPTIONS] <GRAPH> <RESPONSES> [CONTEXT]"

def helpText : String := String.intercalate "\n" [
  "Replay a workflow graph against canned responses and print the outcome", "", usage, "",
  "Arguments:",
  "  <GRAPH>      Workflow graph: group name to ordered step array",
  "  <RESPONSES>  Canned responses keyed by workflow id",
  "  [CONTEXT]    Initial context object", "",
  "Options:",
  "      --config <FILE>  Console configuration (JSON, TOML or YAML)",
  "  -h, --help           Print help",
  "  -V, --version        Print version"]

def faultOf : IO.Error → FileFault
  | .noFileOrDirectory .. => .missing
  | .permissionDenied .. => .denied
  | .inappropriateType .. => .directory
  | e => .other (toString e)

def readFile (path : String) : IO (Except FileFault String) := do
  match ← (IO.FS.readBinFile path).toBaseIO with
  | .error e => pure (.error (faultOf e))
  | .ok bytes => pure (match String.fromUTF8? bytes with
    | some text => .ok text
    | none => .error .notText)

def pathsOf : Invocation → List String
  | .replay p => p.settings.toList ++ [p.graph, p.responses] ++ p.context.toList
  | _ => []

def surroundings : IO Surroundings := do
  let time ← Std.Time.Timestamp.now
  let since := time.toDurationSinceUnixEpoch
  let now := (Moment.ofSeconds? since.second.val since.nano.val.toNat).getD .epoch
  let seed ← IO.getRandomBytes 8
  let stem := String.intercalate "-" (seed.toList.map fun b => toString b.toNat)
  pure { now, ids := { stem } }

def print : ConsoleAnswer → IO Unit
  | .report r => IO.println r.toJson.indentedText
  | .help => IO.println helpText
  | .version => IO.println "xconsole 0.1.0"
  | .misuse => IO.eprintln usage
  | a => IO.eprintln ("xconsole: " ++ a.message?.getD "")

end BackOffice.Console

open BackOffice

def main (args : List String) : IO UInt32 := do
  let invocation := Invocation.ofArgs args
  let contents ← (Console.pathsOf invocation).mapM fun path => do
    pure (path, ← Console.readFile path)
  let files : Files := fun path => (contents.lookup path).getD (.error .missing)
  let answer := invocation.answer files (← Console.surroundings)
  Console.print answer
  pure answer.exitCode
