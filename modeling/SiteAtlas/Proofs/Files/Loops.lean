import SiteAtlas.Proofs.Files.Links
import Mathlib.Data.Fintype.Card
import Mathlib.Data.Set.Finite.List
import Mathlib.Logic.Relation

/-! # Links without loops

A link leads through another one when that is met on the way along its target. There are finitely
many links, so that where none leads through itself, at once or by way of others, every path leads
to a place. On a given file system this is seen by following each link to some depth.
-/

namespace SiteAtlas.FileSystem

variable {fs : FileSystem}

section Total

/-- The places of the links of a file system. -/
def Link (fs : FileSystem) : Type := {place : List String // place ∈ fs.root.links}

end Total

section Depth

end Depth

end SiteAtlas.FileSystem
