import SiteAtlas.Routing.RoutePath
import SiteAtlas.Routing.FileRole
import SiteAtlas.Value.Basic

/-! # Routing in answers

The documents that describe folders and files in answers.
-/

namespace SiteAtlas.Routing

/-- The document of a folder called `name`. -/
def Segment.payload (name : String) (segment : Segment) : Value :=
  let level := match segment with
    | .intercepting level target => some (level, target)
    | _ => none
  .table [("type", .text segment.label), ("displayName", .text (segment.displayName name)),
    ("routingType", .text segment.title), ("urlEffect", .text (segment.urlEffect name)),
    ("description", .text segment.description), ("paramName", .optional segment.paramName?),
    ("slotName", .optional segment.slotName?),
    ("interceptLevel", .optional (level.map (·.1.label))),
    ("interceptSegment", .optional (level.map (·.2)))]

/-- The document of a file. -/
def FileAnalysis.payload (analysis : FileAnalysis) : Value :=
  let isEndpoint := analysis.role == .routeFile .endpoint
  .table [("type", .text analysis.label), ("purpose", .text analysis.purpose),
    ("description", .text analysis.description),
    ("isAppRouterSpecial", .bool analysis.routeFile?.isSome),
    ("baseName", .text analysis.baseName),
    ("apiMethods", if isEndpoint then .texts analysis.methods else .null),
    ("serverActions", if isEndpoint then .texts analysis.actions else .null),
    ("colocatedKind", match analysis.role with
      | .script kind => .text kind.label
      | _ => .null)]

end SiteAtlas.Routing
