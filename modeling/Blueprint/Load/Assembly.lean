import Blueprint.Load.Index

/-!
# Assembling a project

A definition is loaded in three passes: the outline, the links, the indexes. Each pass
starts when the one before it has succeeded for the whole project, so the first fault of
an earlier pass is reported before any fault of a later one, wherever the two stand in
the file.

Linking an object to its target is done once all links are known: `connect` puts a link
at the end of its source's links and its handle at the end of its target's reverse links,
and the objects of the project are those obtained by connecting every link in turn.
-/

namespace Blueprint

/-- How far an assembly has come. -/
inductive AssemblyStage where
  | unstarted
  | pass1Complete
  | pass2Complete
  | pass3Complete
  | ready
deriving DecidableEq

/-- The name of a stage. -/
def AssemblyStage.text : AssemblyStage → String
  | .unstarted => "Unstarted"
  | .pass1Complete => "Pass1Complete"
  | .pass2Complete => "Pass2Complete"
  | .pass3Complete => "Pass3Complete"
  | .ready => "Ready"

namespace Load

/-- An object as its outline says, with nothing linked to it yet. -/
def unlinked (o : ObjectOutline) : Object :=
  ⟨o.name, o.properties, [], [], [], o.attributes⟩

/-- **One link put in place**: at the end of its source's links, and its handle at the
end of its target's reverse links. -/
def connect (objects : List Object) (link : Link) : List Object :=
  let position := ((objects[link.source]?).map fun o => o.links.length).getD 0
  let linked := objects.modify link.source fun o => { o with links := o.links ++ [link] }
  linked.modify link.target fun o =>
    { o with reverseLinks := o.reverseLinks ++ [⟨link.source, position⟩] }

/-- The objects with all links in place. -/
def connectAll (objects : List Object) (links : List Link) : List Object :=
  links.foldl connect objects

/-- An object with its indexes. -/
def withIndexes (o : Object) (indexes : List Index) : Object := { o with indexes }

/-- The project of an outline, its links and its indexes. -/
def assemble (outline : Outline) (links : List (List Link)) (indexes : List (List Index)) :
    Project where
  name := outline.name
  attributes := outline.attributes
  dataTypes := outline.dataTypes
  objects :=
    List.zipWith withIndexes (connectAll (outline.objects.map unlinked) links.flatten) indexes
  files := outline.files

end Load

/-- **A definition loaded**: the project it describes, or the first fault of the first
pass that has one. -/
def load (options : LoadOptions) (definition : Tree) : Except LoadError Project := do
  let outline ← Load.outline definition
  let links ← Load.links outline
  let indexes ← Load.indexes options outline links
  return Load.assemble outline links indexes

end Blueprint
