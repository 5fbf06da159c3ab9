import SiteAtlas.Settings.Convert
import SiteAtlas.Layout.Spacing
import SiteAtlas.Routing.RoutePath

/-! # Sections of the settings

The options of a walk and the measures of the two layouts, read from tables. Each is a function of
the value under its own key; unknown keys mean nothing.
-/

namespace SiteAtlas

/-- The options of a walk over a project. -/
structure AnalysisSettings where
  /-- The path of the router root from the project's root. -/
  routerRoot : String := Routing.defaultRouterRoot
  /-- What stands for the project's root at the front of an import's source. -/
  aliasPrefix : String := "@/"
  /-- Further ignore rules. -/
  extraIgnores : List String := []
  /-- Whether imports are analysed as well. -/
  includeDependencies : Bool := false
  deriving DecidableEq, Inhabited

/-- Read the options of a walk. -/
def AnalysisSettings.ofFields (fields : Fields) : AnalysisSettings :=
  let standard : AnalysisSettings := {}
  { routerRoot := Settings.text fields "app_router_root" standard.routerRoot
    aliasPrefix := Settings.text fields "alias_prefix" standard.aliasPrefix
    extraIgnores := Settings.texts fields "extra_ignores" standard.extraIgnores
    includeDependencies :=
      Settings.flag fields "include_dependencies" standard.includeDependencies }

/-- The options of a walk as a table. -/
def AnalysisSettings.toFields (s : AnalysisSettings) : Fields :=
  [("app_router_root", .text s.routerRoot), ("alias_prefix", .text s.aliasPrefix),
    ("extra_ignores", .texts s.extraIgnores),
    ("include_dependencies", .bool s.includeDependencies)]

/-- Read the measures of the tree layout. -/
def TreeSpacing.ofFields (fields : Fields) : Except Settings.ReadError (TreeSpacing Number) := do
  let d : TreeSpacing Number := .standard
  return {
    depthDistance := ← Settings.number fields "depth_distance" d.depthDistance
    fileOffset := ← Settings.number fields "file_offset" d.fileOffset
    dependencyDistance := ← Settings.number fields "dependency_distance" d.dependencyDistance
    folderSpacing := ← Settings.number fields "folder_spacing" d.folderSpacing
    fileSpacing := ← Settings.number fields "file_spacing" d.fileSpacing
    dependencySpacing := ← Settings.number fields "dependency_spacing" d.dependencySpacing
    minTreeExtent := ← Settings.number fields "min_tree_extent" d.minTreeExtent
    verticalIncrement :=
      ← Settings.number fields "collision_vertical_increment" d.verticalIncrement
    horizontalIncrement :=
      ← Settings.number fields "collision_horizontal_increment" d.horizontalIncrement
    collisionPadding := ← Settings.number fields "collision_padding" d.collisionPadding
    maxAttempts := ← Settings.whole fields "collision_max_attempts" d.maxAttempts
    folderWidth := ← Settings.number fields "folder_width" d.folderWidth
    folderHeight := ← Settings.number fields "folder_height" d.folderHeight
    fileWidth := ← Settings.number fields "file_width" d.fileWidth
    fileHeight := ← Settings.number fields "file_height" d.fileHeight
    dependencyWidth := ← Settings.number fields "dependency_width" d.dependencyWidth
    dependencyHeight := ← Settings.number fields "dependency_height" d.dependencyHeight
    rootX := ← Settings.number fields "root_x" d.rootX }

/-- The measures of the tree layout as a table. -/
def TreeSpacing.toFields (s : TreeSpacing Number) : Fields :=
  [("depth_distance", .number s.depthDistance), ("file_offset", .number s.fileOffset),
    ("dependency_distance", .number s.dependencyDistance),
    ("folder_spacing", .number s.folderSpacing), ("file_spacing", .number s.fileSpacing),
    ("dependency_spacing", .number s.dependencySpacing),
    ("min_tree_extent", .number s.minTreeExtent),
    ("collision_vertical_increment", .number s.verticalIncrement),
    ("collision_horizontal_increment", .number s.horizontalIncrement),
    ("collision_padding", .number s.collisionPadding),
    ("collision_max_attempts", .number (.whole s.maxAttempts)),
    ("folder_width", .number s.folderWidth), ("folder_height", .number s.folderHeight),
    ("file_width", .number s.fileWidth), ("file_height", .number s.fileHeight),
    ("dependency_width", .number s.dependencyWidth),
    ("dependency_height", .number s.dependencyHeight), ("root_x", .number s.rootX)]

/-- The measures of the force layout when none are set. -/
def ForceSettings.standard : ForceSettings Number :=
  { viewportWidth := 1920, viewportHeight := 1080, nodeWidth := 320, headerHeight := 56
    footerHeight := 48, fieldRowHeight := 44, sectionDividerHeight := 40, sectionRowHeight := 32
    heightPadding := 20, minHeight := 180, maxHeight := 1200, linkDistance := 350
    linkStrength := .real 0.4, chargeStrength := .whole (-1500), chargeDistanceMax := 1000
    chargeDistanceMin := 1, collisionPadding := 60, collisionStrength := .real 1.0
    collisionIterations := 3, axisStrength := .real 0.03, ticks := 400, alphaMin := .real 0.001
    alphaDecayTicks := 300, velocityDecay := .real 0.4, seed := 0 }

/-- Read the measures of the force layout. -/
def ForceSettings.ofFields (fields : Fields) :
    Except Settings.ReadError (ForceSettings Number) := do
  let d := ForceSettings.standard
  return {
    viewportWidth := ← Settings.number fields "viewport_width" d.viewportWidth
    viewportHeight := ← Settings.number fields "viewport_height" d.viewportHeight
    nodeWidth := ← Settings.number fields "node_width" d.nodeWidth
    headerHeight := ← Settings.number fields "header_height" d.headerHeight
    footerHeight := ← Settings.number fields "footer_height" d.footerHeight
    fieldRowHeight := ← Settings.number fields "field_row_height" d.fieldRowHeight
    sectionDividerHeight :=
      ← Settings.number fields "section_divider_height" d.sectionDividerHeight
    sectionRowHeight := ← Settings.number fields "section_row_height" d.sectionRowHeight
    heightPadding := ← Settings.number fields "height_padding" d.heightPadding
    minHeight := ← Settings.number fields "min_height" d.minHeight
    maxHeight := ← Settings.number fields "max_height" d.maxHeight
    linkDistance := ← Settings.number fields "link_distance" d.linkDistance
    linkStrength := ← Settings.number fields "link_strength" d.linkStrength
    chargeStrength := ← Settings.number fields "charge_strength" d.chargeStrength
    chargeDistanceMax := ← Settings.number fields "charge_distance_max" d.chargeDistanceMax
    chargeDistanceMin := ← Settings.number fields "charge_distance_min" d.chargeDistanceMin
    collisionPadding := ← Settings.number fields "collision_padding" d.collisionPadding
    collisionStrength := ← Settings.number fields "collision_strength" d.collisionStrength
    collisionIterations := ← Settings.whole fields "collision_iterations" d.collisionIterations
    axisStrength := ← Settings.number fields "axis_strength" d.axisStrength
    ticks := ← Settings.whole fields "ticks" d.ticks
    alphaMin := ← Settings.number fields "alpha_min" d.alphaMin
    alphaDecayTicks := ← Settings.whole fields "alpha_decay_ticks" d.alphaDecayTicks
    velocityDecay := ← Settings.number fields "velocity_decay" d.velocityDecay
    seed := ← Settings.whole fields "seed" d.seed }

/-- The measures of the force layout as a table. -/
def ForceSettings.toFields (s : ForceSettings Number) : Fields :=
  [("viewport_width", .number s.viewportWidth), ("viewport_height", .number s.viewportHeight),
    ("node_width", .number s.nodeWidth), ("header_height", .number s.headerHeight),
    ("footer_height", .number s.footerHeight), ("field_row_height", .number s.fieldRowHeight),
    ("section_divider_height", .number s.sectionDividerHeight),
    ("section_row_height", .number s.sectionRowHeight),
    ("height_padding", .number s.heightPadding), ("min_height", .number s.minHeight),
    ("max_height", .number s.maxHeight), ("link_distance", .number s.linkDistance),
    ("link_strength", .number s.linkStrength), ("charge_strength", .number s.chargeStrength),
    ("charge_distance_max", .number s.chargeDistanceMax),
    ("charge_distance_min", .number s.chargeDistanceMin),
    ("collision_padding", .number s.collisionPadding),
    ("collision_strength", .number s.collisionStrength),
    ("collision_iterations", .number (.whole s.collisionIterations)),
    ("axis_strength", .number s.axisStrength), ("ticks", .number (.whole s.ticks)),
    ("alpha_min", .number s.alphaMin), ("alpha_decay_ticks", .number (.whole s.alphaDecayTicks)),
    ("velocity_decay", .number s.velocityDecay), ("seed", .number (.whole s.seed))]

end SiteAtlas
