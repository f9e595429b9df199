import BackOffice.Json.Parser
import BackOffice.Json.Path
import BackOffice.Source.Toml.Document
import BackOffice.Source.Yaml.Document
import BackOffice.Source.Yaml.Value

/-!
The formats that a text may be written in. The name of a file tells its format.
-/

namespace BackOffice

/-- A format of texts. -/
inductive SourceFormat where
  | yaml
  | toml
  | json
deriving DecidableEq, Repr, Inhabited

/-- The last part of a path, which names a file; a directory above does not. -/
def fileName? (path : String) : Option (List Char) :=
  let parts := (segmentsOf '/' path.toList).filter fun part => !part.isEmpty && part != ['.']
  parts.getLast?.filter (· != ['.', '.'])

/-- What stands behind the last dot of a file's name, unless the dot is the name's first character. -/
def extension? (path : String) : Option (List Char) := do
  match segmentsOf '.' (← fileName? path) with
  | [_] | [[], _] => none
  | parts => parts.getLast?

namespace SourceFormat

/-- The format that the name of a file tells; without a telling name it is JSON. -/
def ofPath (path : String) : SourceFormat :=
  match (extension? path).map fun cs => lowerAscii (String.ofList cs) with
  | some "yaml" | some "yml" => yaml
  | some "toml" => toml
  | _ => json

/-- Reads a value of a form. A record may not give a field twice; elsewhere the last member of a name
counts, if the format admits two at all. -/
def read? (format : SourceFormat) (form : Form) (text : String) : Option Json :=
  let once := fun v => if form.repeats v then none else some v.merged
  match format with
  | yaml => (Yaml.parse? text).bind fun y => (y.toJson? form).bind once
  | toml => Toml.parse? text
  | json => (Json.read? text).bind once

end SourceFormat

end BackOffice
