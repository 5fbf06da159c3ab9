import SiteAtlas.Console.Markup
import SiteAtlas.Console.Outline
import SiteAtlas.Console.Panel
import SiteAtlas.Console.Table
import SiteAtlas.Project.Analysis
import SiteAtlas.Schema.GraphStatistics

/-! # Reports

What commands show of their results to a reader: a list of lines for a terminal.
-/

namespace SiteAtlas.Report

open Console

/-! ## Projects -/

/-- A table of counts. -/
def countTable (title header : String) (counts : List (String × Nat)) : Table :=
  { title := some title
    columns := [⟨header, .left⟩, ⟨"Count", .right⟩]
    rows := counts.map fun (name, count) => [name, toString count] }

/-- The line about a schema file. -/
def schemaLine (f : SchemaFile) : List String :=
  let models := toString f.tally.modelNames.length
  let enums := toString f.tally.enumNames.length
  message (plainText
    ("🗄️  " ++ f.relativePath ++ ": " ++ models ++ " models, " ++ enums ++ " enums"))

/-- The numbers of a project. -/
def analysis (a : ProjectAnalysis) : List String :=
  let panel : Panel :=
    { title := plainText a.root.name
      text := "Routes: " ++ toString a.insights.routeCount ++ "   API endpoints: "
        ++ toString a.insights.endpointCount ++ "   Folders: " ++ toString a.folderCount
        ++ "   Files: " ++ toString a.fileCount }
  panel.lines
    ++ (countTable "Route patterns" "Pattern" a.insights.segmentCounts).lines
    ++ (countTable "Special files" "File" a.insights.fileCounts).lines
    ++ (a.schemas.getD []).flatMap schemaLine
    ++ match a.dependencyMap with
      | some map => message ("🔗 Dependency map: " ++ toString map.length ++ " files")
      | none => []

/-- What is written for a folder: its name, what it means for routes, and its URL. -/
def folderLabel (node : StructureNode) : String :=
  let title := match node.segment? with
    | none | some .static => ""
    | some segment => " (" ++ segment.title ++ ")"
  let route := match node.entry.route with
    | some route => " " ++ route
    | none => ""
  node.name ++ "/" ++ title ++ route

/-- What is written for a file: its name and, for a reserved route file, its purpose. -/
def fileLabel (node : StructureNode) : String :=
  match node.routeFile? with
  | some file => node.name ++ " " ++ file.purpose
  | none => node.name

mutual

/-- The outline of a tree. -/
def outlineOf : StructureNode → Outline
  | .folder entry segment children =>
    .item (folderLabel (.folder entry segment children)) (outlinesOf children)
  | .file entry analysis => .item (fileLabel (.file entry analysis)) []

/-- The outlines of the contents of a folder. -/
def outlinesOf : List StructureNode → List Outline
  | [] => []
  | node :: rest => outlineOf node :: outlinesOf rest

end

/-- The tree of a project; of the root only its name is written. -/
def tree (root : StructureNode) : List String :=
  (Outline.item (root.name ++ "/") (outlinesOf root.children)).lines

/-- The pages and routes of a project. -/
def manifest (m : Manifest) : List String :=
  let pages : Table :=
    { title := some "Pages"
      columns := [⟨"URL", .left⟩, ⟨"File", .left⟩, ⟨"Layouts", .right⟩]
      rows := m.pages.map fun p => [p.url, p.file, toString p.layoutChain.length] }
  let routes : Table :=
    { title := some "API routes"
      columns := [⟨"URL", .left⟩, ⟨"Methods", .left⟩, ⟨"Kind", .left⟩]
      rows := m.apiRoutes.map fun r =>
        [r.url, if r.methods.isEmpty then "-" else ", ".intercalate r.methods, r.kind.label] }
  pages.lines
    ++ (if m.apiRoutes.isEmpty then [] else routes.lines)
    ++ if m.configFiles.isEmpty then []
      else message ("Config files: " ++ ", ".intercalate (m.configFiles.map (·.name)))

/-! ## Imports -/

/-- The names among specifiers. -/
def shownNames (specifiers : List (Specifier × String)) : String :=
  ", ".intercalate (specifiers.map fun s => s.1.shownName)

/-- Where a dependency leads: its path from the root, its package, or its path. -/
def shownTarget (r : Resolution) : String :=
  let given (text : Option String) : Option String := text.filter fun t => !t.isEmpty
  ((given r.relativePath).orElse fun _ => given r.packageName).getD r.resolvedPath

/-- What a file imports. -/
def dependencies (r : DependencyResult) : List String :=
  let table : Table :=
    { columns := ["Source", "Type", "State", "Resolved", "Specifiers"].map fun h => ⟨h, .left⟩
      rows := r.all.map fun d =>
        [d.source, d.form.label, d.state.label, shownTarget d.target,
          plainText (shownNames d.specifiers)] }
  r.errors.flatMap (fun error => message ("⚠ " ++ error))
    ++ if r.all.isEmpty then ["No dependencies found."] else table.lines

/-- Where a file is imported. -/
def importers (found : List Importer) : List String :=
  if found.isEmpty then ["No importers found."]
  else
    found.map fun i =>
      let names := shownNames i.specifiers
      i.relativePath ++ if names.isEmpty then "" else "  (" ++ names ++ ")"

/-! ## Schemas -/

/-- The numbers of a schema. -/
def schema (name : String) (s : Schema) : List String :=
  let indexes := total (s.models.map fun m => m.indexes.length + m.uniqueIndexes.length)
  let panel : Panel :=
    { title := plainText name
      text := "Models: " ++ toString s.models.length ++ "   Enums: " ++ toString s.enums.length
        ++ "   Relations: " ++ toString (Schema.relations s).length ++ "   Indexes: "
        ++ toString indexes }
  let table : Table :=
    { title := some "Models"
      columns := [⟨"Model", .left⟩, ⟨"Fields", .right⟩, ⟨"Relations", .right⟩, ⟨"Related", .left⟩]
      rows := (Schema.breakdown s).map fun b =>
        let related := b.model.fields.filter (·.kind == .object)
        [b.model.name, toString b.model.fields.length, toString b.model.relationCount,
          ", ".intercalate (related.map (·.type))] }
  panel.lines ++ table.lines

/-! ## Settings -/

/-- The lines of a section of settings. -/
def settingsSection (name : String) (value : Value) : List String :=
  ("[" ++ name ++ "]") :: match value with
    | .table fields => fields.map fun (key, value) => key ++ " = " ++ value.literal
    | _ => []

/-- The settings in a file. -/
def settings (path : Path) (document : Fields) : List String :=
  ("# " ++ path.toString) ::
    if document.isEmpty then ["(defaults)"]
    else document.flatMap fun (name, value) => settingsSection name value

end SiteAtlas.Report
