import SiteAtlas.Command.Basic
import SiteAtlas.Command.Report
import SiteAtlas.Graph.Html
import SiteAtlas.Json.Printer
import SiteAtlas.Workspace

/-! # Carrying out commands

A command shows a text and ends with a code: 0 if it was carried out, 1 if that failed, and 2 if
what was asked for makes no sense. It can change the files of its workspace.
-/

namespace SiteAtlas.Command

/-- What a command leads to. -/
structure Outcome where
  /-- How it ended. -/
  code : Nat := 0
  /-- What it showed. -/
  output : String := ""
  /-- What it complained about. -/
  complaint : String := ""
  /-- The files, afterwards. -/
  files : FileSystem
  /-- The file that it was asked to write, and what it wrote. -/
  written : Option (Path × String) := none

/-- Why a command fails. -/
inductive Failure where
  /-- The reason is shown. -/
  | shown (lines : List String)
  /-- The command is broken off. -/
  | brokenOff (error : WorkspaceError)
  | usage (error : UsageError)

/-- Lines with their ends. -/
def linesText (lines : List String) : String := String.join (lines.map (· ++ "\n"))

/-- The outcome of a failure. -/
def Failure.outcome (files : FileSystem) : Failure → Outcome
  | shown lines => { code := 1, output := linesText lines, files := files }
  | brokenOff error => { code := 1, complaint := error.message, files := files }
  | usage error => { code := 2, complaint := error.message, files := files }

/-- A result, or the failure that an error leads to; a missing project is shown. -/
def orFailure {α : Type} (result : Except WorkspaceError α) : Except Failure α :=
  result.mapError fun
    | .project (.noFolder path) =>
      .shown (Console.message (ProjectError.noFolder path).message)
    | error => .brokenOff error

/-- The outcome of showing lines. -/
def showLines (w : Workspace) (lines : List String) : Outcome :=
  { output := linesText lines, files := w.files }

/-- The outcome of showing a document. -/
def showDocument (w : Workspace) (document : Value) : Outcome :=
  showLines w [Json.renderIndented document]

/-- Write a file that a command was asked for, and say so. Its folder has to be there. -/
def writeOutput (w : Workspace) (path : Path) (text said : String) : Except Failure Outcome :=
  let target := w.located path
  let refused (error : FileError) : Failure := .brokenOff (.file error path.toString)
  match w.files.isFolder target with
  | .error e => .error (refused e.error)
  | .ok true => .error (refused .isFolder)
  | .ok false =>
    if !w.files.hasFolder target.parent then .error (refused .missing)
    else
      .ok {
        output := linesText [said ++ path.toString]
        files := w.files.write target text
        written := some (path, text) }

/-- The text of a graph. -/
def graphText (g : Graph Number) (title : String) : GraphFormat → String
  | .json => Json.renderIndented g.payload
  | .dot => g.toDot ""
  | .html => g.toHtml title ""

/-- Show a graph, or write it to a file. -/
def showGraph (w : Workspace) (g : Graph Number) (title : String) (format : GraphFormat) :
    (output : Option Path) → Except Failure Outcome
  | none => .ok (showLines w [graphText g title format])
  | some path => writeOutput w path (graphText g title format) "Exported graph to "

/-- The line that shows how a command is written. -/
def formLine (command : String × Form) : String :=
  let flags := command.2.flags.map fun f =>
    "[" ++ "|".intercalate f.names ++ (if f.takesValue then " VALUE" else "") ++ "]"
  "  " ++ " ".intercalate (command.1 :: command.2.arguments ++ flags)

/-- What shows how the program is used. -/
def usageLines : List String :=
  ["Usage: site-atlas [--version] [--verbose] COMMAND", ""]
    ++ (commandForms ++ settingForms.map fun form => ("config " ++ form.1, form.2)).map formLine

/-- The version of the program. -/
def versionLine : String := "NextGraph CLI v0.1.0"

/-- Set a setting of the user. -/
def changeSetting (w : Workspace) (group name : String) (value : Value) :
    Except Failure Outcome := do
  let saved := Settings.saveSection .toml w.files w.userFile group [(name, value)]
  let (files, written) ← orFailure (saved.mapError .settings)
  if !written then
    throw (.shown (Console.message ("Could not write " ++ w.userFile.toString)))
  let line := "Set " ++ group ++ "." ++ name ++ " = " ++ value.literal
  return { output := linesText [line], files := files }

/-- Carry out a command. -/
def carryOut (w : Workspace) : Command → Except Failure Outcome
  | .help _ => .ok (showLines w usageLines)
  | .version => .ok (showLines w [versionLine])
  | .analyze path withDependencies asJson output => do
    let project ← orFailure (w.project path)
    let analysis ← orFailure ((project.analyze (some withDependencies)).mapError .ofPath)
    if let some output := output then
      writeOutput w output (Json.renderIndented analysis.payload) "Wrote analysis to "
    else if asJson then return showDocument w analysis.payload
    else return showLines w (Report.analysis analysis)
  | .outline path => do
    let project ← orFailure (w.project path)
    return showLines w (Report.tree project.tree)
  | .routes path asJson => do
    let project ← orFailure (w.project path)
    if asJson then return showDocument w project.manifest.payload
    else return showLines w (Report.manifest project.manifest)
  | .dependencies file root asJson => do
    let root ← match root with
      | some root => pure root
      | none =>
        let real := (w.files.realPath (w.absolute file)).mapError (.file · file.toString)
        (orFailure real).map Path.parent
    let result ← orFailure (w.dependencies root file)
    if asJson then return showDocument w result.payload
    else return showLines w (Report.dependencies result)
  | .importers file root => do
    let project ← orFailure (w.project (w.absolute root))
    let importers ← orFailure ((project.findImporters (w.absolute file)).mapError .ofPath)
    return showLines w (Report.importers importers)
  | .layout path expanded expandAll withDependencies format output => do
    let project ← orFailure (w.project path)
    let expandedIn (tree : StructureNode) : List String :=
      if expandAll then NodeId.allFolders [] tree else NodeId.initiallyExpanded ++ expanded
    let graph ← orFailure (w.layout project expandedIn withDependencies)
    showGraph w graph (project.root.name ++ " structure") format output
  | .schema path format output arranged => do
    let isFile := (w.files.isFile (w.located path)).mapError fun e => .file e.error path.toString
    if !(← orFailure isFile) then throw (.usage (.noSchema path.toString))
    let (content, graph) ← orFailure (w.schema path arranged)
    match format with
    | some format => showGraph w graph (path.name ++ " schema") format output
    | none => return showLines w (Report.schema path.name content)
  | .showSettings => do
    let document ← orFailure ((Settings.load .toml w.files w.userFile).mapError .settings)
    return showLines w (Report.settings w.userFile document)
  | .setSetting group name value => changeSetting w group name value

/-- The outcome of a command. -/
def run (w : Workspace) (command : Command) : Outcome :=
  match carryOut w command with
  | .ok outcome => outcome
  | .error failure => failure.outcome w.files

/-- The outcome of a command line. -/
def runLine (w : Workspace) (words : List String) : Outcome :=
  match read words with
  | .ok command => run w command
  | .error error => (Failure.usage error).outcome w.files

end SiteAtlas.Command
