import SiteAtlas.Scalar
import SiteAtlas.Graph.Basic

/-! # Boxes

Two boxes collide when, grown by a padding on every side, they overlap or touch.
-/

namespace SiteAtlas

/-- An upright rectangle, by its left top corner and its size. -/
structure Box (α : Type) where
  /-- Its left edge. -/
  x : α
  /-- Its top edge. -/
  y : α
  /-- Its width. -/
  width : α
  /-- Its height. -/
  height : α
  deriving DecidableEq

/-- The rectangle of a node. -/
def Node.box {α : Type} (n : Node α) : Box α := ⟨n.x, n.y, n.width, n.height⟩

namespace Box

variable {α : Type} [Scalar α]

/-- The left edge of the grown box. -/
def left (padding : α) (b : Box α) : α := b.x - padding

/-- The top edge of the grown box. -/
def top (padding : α) (b : Box α) : α := b.y - padding

/-- The right edge of the grown box. -/
def right (padding : α) (b : Box α) : α := b.x + b.width + padding

/-- The bottom edge of the grown box. -/
def bottom (padding : α) (b : Box α) : α := b.y + b.height + padding

/-- Whether two boxes, grown by a padding, overlap or touch. -/
def collides (padding : α) (a b : Box α) : Bool :=
  !(decide (b.right padding < a.left padding) || decide (a.right padding < b.left padding)
    || decide (b.bottom padding < a.top padding) || decide (a.bottom padding < b.top padding))

end Box

end SiteAtlas
