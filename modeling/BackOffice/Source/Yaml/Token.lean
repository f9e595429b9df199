import BackOffice.Source.Yaml.Scalar
import BackOffice.Source.Yaml.Tag

/-!
The tokens of a YAML text. Blocks have a start and an end here, as brackets do, and every key and every
value is marked, although the text may only show their places.
-/

namespace BackOffice.Yaml

inductive Token where
  /-- The mark of a document's start. -/
  | documentStart
  /-- The mark of a document's end. -/
  | documentEnd
  | textEnd
  /-- A directive that tells the version of the format. -/
  | version
  /-- A directive that says what a handle of tags stands for. -/
  | handle (name front : String)
  /-- A directive that has no meaning. -/
  | reserved
  | blockSeq
  | blockMap
  | blockEnd
  /-- The mark of an item in a block. -/
  | dash
  | flowSeq
  | flowSeqEnd
  | flowMap
  | flowMapEnd
  | comma
  | key
  | value
  | alias (name : String)
  | anchor (name : String)
  | tag (name : TagName)
  | scalar (text : String) (style : ScalarStyle)
deriving DecidableEq, Repr, Inhabited

end BackOffice.Yaml
