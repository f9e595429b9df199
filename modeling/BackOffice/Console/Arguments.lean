import BackOffice.Keyed

/-!
The arguments of the command line: the files of a graph, of recorded responses and of a starting context,
and an option that names a file of settings.
-/

namespace BackOffice

/-- The files that a graph is replayed from. -/
structure ReplayFiles where
  settings : Option String := none
  graph : String
  responses : String
  context : Option String := none
deriving DecidableEq, Repr

/-- What the command line asks for. -/
inductive Invocation where
  | replay (files : ReplayFiles)
  | help
  | version
  /-- Nothing that could be done. -/
  | misuse
deriving DecidableEq, Repr

namespace Invocation

/-- The files by their positions. -/
def ofNames (settings : Option String) : List String → Invocation
  | [graph, responses] => replay { settings, graph, responses }
  | [graph, responses, context] => replay { settings, graph, responses, context := some context }
  | _ => misuse

/-- Whether an argument is an option; a hyphen alone is a name. -/
def isOption (arg : String) : Bool := arg.toList.head? == some '-' && arg != "-"

/-- The name in an option of the form `--config=name`. -/
def assigned? (arg : String) : Option String :=
  let front := "--config=".toList
  if front.isPrefixOf arg.toList then some (String.ofList (arg.toList.drop front.length)) else none

/-- Reads the arguments that are left, after an option and some names. No name is empty, and the option
comes once. -/
def read (settings : Option String) (names : List String) : List String → Invocation
  | [] => ofNames settings names
  | "--" :: rest => if rest.contains "" then misuse else ofNames settings (names ++ rest)
  | "--help" :: _ | "-h" :: _ => help
  | "--version" :: _ | "-V" :: _ => version
  | "--config" :: name :: rest =>
    if settings.isSome || name == "" || isOption name then misuse else read (some name) names rest
  | arg :: rest =>
    match assigned? arg with
    | some name => if settings.isSome || name == "" then misuse else read (some name) names rest
    | none => if arg == "" || isOption arg then misuse else read settings (names ++ [arg]) rest

def ofArgs (args : List String) : Invocation := read none [] args

end Invocation

end BackOffice
