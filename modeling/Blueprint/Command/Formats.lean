import Blueprint.Settings
import Blueprint.Yaml.Reader

/-!
# What the formats of the sources give

A command reads texts in two formats: its settings in TOML and its definition in YAML. What a
text of a format gives is for the readers of the format to say, and the commands only go on
with what they are given. They can be run with any readers, therefore, and nothing is
assumed of these: one reader may take a text and another one refuse it.

| a text of | that is read gives | and is then read as |
|---|---|---|
| TOML | a value of some kind of document | settings (`Blueprint.Settings.read?`) |
| YAML | an offer | a tree (`Blueprint.Feed.toTree`) |

The readers of this library are `Blueprint.Command.Formats.plain`. They do not take all of
either format.
-/

namespace Blueprint

namespace Command

/-- **The readers of the two formats.** -/
structure Formats where
  /-- The values that a TOML text gives. -/
  Item : Type
  [document : Document Item]
  toml? : String → Option Item
  yaml? : String → Option Feed

attribute [instance] Formats.document

namespace Formats

/-- The tree that a text describes in YAML. -/
def definition? (formats : Formats) (text : String) : Option Tree := do
  (← formats.yaml? text).toTree.toOption

/-- The readers of this library. -/
def plain : Formats where
  Item := Toml.Item
  toml? := Toml.read?
  yaml? := Yaml.readFeed?

end Formats

end Command

end Blueprint
