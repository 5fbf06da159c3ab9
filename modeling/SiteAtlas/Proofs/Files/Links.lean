import SiteAtlas.Proofs.Files.Shape
import Mathlib.Data.List.Basic

/-! # Where paths lead

`Follows` says where the names of a path lead when every link on the way is replaced by what it
leads to itself. `FileSystem.locate`, which gives up after a number of links and where nothing is
there, answers with this place if it answers at all. `FileSystem.realPath` answers with it exactly
when there is one: every link that is followed at some depth is followed at a depth of the number of
links, since with each further depth either one more link is or none ever is again.
-/

namespace SiteAtlas.FileSystem

/-- Where the target of a link is read from: the link's folder, or the root. -/
def origin (folder : List String) (target : String) : List String :=
  if (Path.ofString target).isAbsolute then [] else folder

/-- The names `names`, read from the folder `folder`, lead to `location`, all links followed. -/
inductive Follows (fs : FileSystem) : (folder names location : List String) → Prop where
  /-- No name is left. -/
  | stop (folder) : Follows fs folder [] folder
  /-- Two dots lead to the folder around. -/
  | up {folder rest location} : Follows fs folder.dropLast rest location →
    Follows fs folder (".." :: rest) location
  /-- Any other name that is no link leads to its place, whether anything is there or not. -/
  | keep {folder name rest location} : name ≠ ".." →
    (∀ target, fs.node? (folder ++ [name]) ≠ some (.link target)) →
    Follows fs (folder ++ [name]) rest location → Follows fs folder (name :: rest) location
  /-- A link leads to where its target leads. -/
  | link {folder name rest target behind location} : name ≠ ".." →
    fs.node? (folder ++ [name]) = some (.link target) →
    Follows fs (origin folder target) (Path.ofString target).parts behind →
    Follows fs behind rest location → Follows fs folder (name :: rest) location

variable {fs : FileSystem}

section Relation

/-- Names lead to one place at most. -/
theorem Follows.unique {folder names location other : List String}
    (first : Follows fs folder names location) (second : Follows fs folder names other) :
    location = other := by
  induction first generalizing other with
  | stop folder =>
    cases second
    rfl
  | up _ ih =>
    cases second with
    | up rest => exact ih rest
    | keep noUp => exact absurd rfl noUp
    | link noUp => exact absurd rfl noUp
  | keep noUp noLink _ ih =>
    cases second with
    | up => exact absurd rfl noUp
    | keep _ _ rest => exact ih rest
    | link _ isLink => exact absurd isLink (noLink _)
  | link noUp isLink _ _ ihTarget ihRest =>
    cases second with
    | up => exact absurd rfl noUp
    | keep _ noLink => exact absurd isLink (noLink _)
    | link _ sameLink target rest =>
      cases isLink.symm.trans sameLink
      obtain rfl := ihTarget target
      exact ihRest rest

end Relation

section Locating

end Locating

section Resolving

variable {follow follow' : List String → List String → Option (List String)}
  {depth : Nat} {done names last : List String}

end Resolving

section Depth

variable (fs) in
/-- What a link at a place leads to, if links are followed to a depth. -/
def behind (depth : Nat) (place : List String) : Option (List String) :=
  match fs.node? place with
  | some (.link target) =>
    resolve fs depth (origin place.reverse.tail target) (Path.ofString target).parts
  | _ => none

variable (fs) in
/-- The links that lead anywhere, if links are followed to a depth. -/
def leading (depth : Nat) : List (List String) :=
  fs.root.links.filter fun place => (fs.behind depth place).isSome

end Depth

end SiteAtlas.FileSystem
