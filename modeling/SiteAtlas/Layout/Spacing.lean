import SiteAtlas.Scalar

/-! # Measures of the two layouts

The distances, sizes and strengths that the tree layout and the force layout work with. The
standard ones can be read over any type of coordinates.
-/

namespace SiteAtlas

/-- The measures of the tree layout. Depth grows to the right, siblings spread downward. -/
structure TreeSpacing (α : Type) where
  /-- From a folder's left edge to those of its contents. -/
  depthDistance : α
  /-- How much further right files stand than folders. -/
  fileOffset : α
  /-- From a file's left edge to those of its dependencies. -/
  dependencyDistance : α
  /-- The room below each folder's own. -/
  folderSpacing : α
  /-- The height of a file's row. -/
  fileSpacing : α
  /-- The height of a dependency's row. -/
  dependencySpacing : α
  /-- The least room of an expanded folder. -/
  minTreeExtent : α
  /-- How far the search for a free place steps downward. -/
  verticalIncrement : α
  /-- How far the search for a free place steps sideways. -/
  horizontalIncrement : α
  /-- How far a box is grown when it is tested for a collision. -/
  collisionPadding : α
  /-- How many places the search tries. -/
  maxAttempts : Int
  /-- The width of a folder's box. -/
  folderWidth : α
  /-- The height of a folder's box. -/
  folderHeight : α
  /-- The width of a file's box. -/
  fileWidth : α
  /-- The height of a file's box. -/
  fileHeight : α
  /-- The width of a dependency's box. -/
  dependencyWidth : α
  /-- The height of a dependency's box. -/
  dependencyHeight : α
  /-- The left edge of the root. -/
  rootX : α

/-- The measures of the tree layout when none are set. -/
def TreeSpacing.standard {α : Type} [NatCast α] : TreeSpacing α :=
  let n (k : Nat) : α := k
  { depthDistance := n 600, fileOffset := n 0, dependencyDistance := n 450
    folderSpacing := n 50, fileSpacing := n 100, dependencySpacing := n 100
    minTreeExtent := n 300, verticalIncrement := n 150, horizontalIncrement := n 120
    collisionPadding := n 20, maxAttempts := 20, folderWidth := n 260, folderHeight := n 80
    fileWidth := n 260, fileHeight := n 30, dependencyWidth := n 280, dependencyHeight := n 40
    rootX := n 100 }

/-- The measures of the force layout. -/
structure ForceSettings (α : Type) where
  /-- The width of the picture. -/
  viewportWidth : α
  /-- The height of the picture. -/
  viewportHeight : α
  /-- The width of every box. -/
  nodeWidth : α
  /-- The height of a box's head. -/
  headerHeight : α
  /-- The height of a box's foot. -/
  footerHeight : α
  /-- The height of a field's row. -/
  fieldRowHeight : α
  /-- The height of the line above a further section. -/
  sectionDividerHeight : α
  /-- The height of a row in a further section. -/
  sectionRowHeight : α
  /-- Room added to the height. -/
  heightPadding : α
  /-- The least height of a box. -/
  minHeight : α
  /-- The greatest height of a box. -/
  maxHeight : α
  /-- The distance that links pull toward. -/
  linkDistance : α
  /-- How strongly links pull. -/
  linkStrength : α
  /-- How strongly boxes attract each other; they repel when it is negative. -/
  chargeStrength : α
  /-- The distance from which on boxes do not feel each other. -/
  chargeDistanceMax : α
  /-- The distance below which boxes are held to be further apart than they are. -/
  chargeDistanceMin : α
  /-- Room added to the radius of a box. -/
  collisionPadding : α
  /-- How strongly boxes too close push each other apart. -/
  collisionStrength : α
  /-- How often that is repeated in a tick. -/
  collisionIterations : Int
  /-- How strongly boxes are drawn to the centre. -/
  axisStrength : α
  /-- The number of ticks. -/
  ticks : Int
  /-- The strength of the forces at the end. -/
  alphaMin : α
  /-- The number of ticks until the forces have come down to that. -/
  alphaDecayTicks : Int
  /-- The part of its velocity that a box loses in a tick. -/
  velocityDecay : α
  /-- The seed of the random source. -/
  seed : Int

end SiteAtlas
