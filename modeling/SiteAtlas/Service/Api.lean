import SiteAtlas.Json.Reader
import SiteAtlas.Workspace

/-! # Requests

The service answers requests about projects with JSON documents. A request that is at fault is
refused with the reason; one that the service cannot make sense of at all is answered by a plain
text.
-/

namespace SiteAtlas.Service

/-- A request. -/
structure Request where
  /-- What is asked for, such as `GET`; the case of the letters does not count. -/
  method : String := "POST"
  /-- The path, with a query after it where there is one. -/
  path : String
  /-- The text sent along. -/
  body : String := ""

/-- What a reply says. -/
inductive Content where
  | document (value : Value)
  | plain (text : String)

/-- The reply to a request. -/
structure Reply where
  status : Nat
  content : Content

namespace Reply

/-- The reply to a request that could be answered. -/
def ok (fields : Fields) : Reply := ⟨200, .document (.table fields)⟩

/-- The reply that gives a reason for a failure. -/
def failure (status : Nat) (reason : String) : Reply :=
  ⟨status, .document (.table [("error", .text reason), ("success", .bool false)])⟩

/-- The reply to a request that the service stumbles over. -/
def stumble : Reply := ⟨500, .plain "Internal Server Error"⟩

/-- The reply to a request for a path that is not served. -/
def notFound : Reply := ⟨404, .plain "Not Found"⟩

/-- The reply to a request with a method that the path does not serve. -/
def notAllowed : Reply := ⟨405, .plain "Method Not Allowed"⟩

end Reply

/-- An answer, or the reply that takes its place. -/
abbrev Answer := Except Reply Reply

/-! ## Reading requests -/

/-- The table that the body of a request holds. -/
def Request.fields (r : Request) : Except Reply Fields :=
  match Json.read? r.body with
  | some (.table fields) => .ok fields
  | _ => .error (.failure 400 "Invalid JSON body")

/-- The value under a key, unless there is none or it is empty. -/
def given? (fields : Fields) (key : String) : Option Value := (fields.get? key).filter Value.isGiven

/-- A value that is to be a path. -/
def pathOf (value : Value) : Except String Path :=
  match value with
  | .text s => .ok (Path.ofString s)
  | value => .error ("expected str, bytes or os.PathLike object, not " ++ value.kindName)

/-- Give the reason of a failure. -/
def orReason {α : Type} (result : Except WorkspaceError α) : Except Reply α :=
  result.mapError fun
    | .project (.noFolder path) => .failure 400 (ProjectError.noFolder path).message
    | error => .failure 500 error.message

/-! ## Answers -/

/-- Analyse a project. -/
def analyze (w : Workspace) (r : Request) : Answer := do
  let fields ← r.fields
  let some value := given? fields "projectPath"
    | throw (.failure 400 "Project path is required")
  let path ← (pathOf value).mapError (.failure 500 ·)
  let settings ← orReason (w.analysisSettings path)
  let opened := Project.ofPath? w.files w.workingDirectory path
  let walkable := (opened.bind (·.withSettings? settings)).bind (·.walkable?)
  let project ← orReason (walkable.mapError .project)
  let withDependencies := (given? fields "includeDependencies").isSome
  let analysis ← orReason ((project.analyze (some withDependencies)).mapError .ofPath)
  return .ok [("success", .bool true), ("data", analysis.payload)]

/-- Tell what a file imports. Without a project its folder takes the place of one. -/
def analyzeDependencies (w : Workspace) (r : Request) : Answer := do
  let fields ← r.fields
  let some value := given? fields "filePath"
    | throw (.failure 400 "File path is required")
  let file ← (pathOf value).mapError fun _ => .stumble
  let root := match given? fields "projectRoot" with
    | some value => pathOf value
    | none => .ok (w.absolute file).parent
  let refusal (reason : String) : Reply :=
    if file.isAbsolute then .failure 500 reason else .stumble
  let root ← root.mapError refusal
  let result ← orReason (w.dependencies root (root.join file))
  return .ok [("success", .bool true), ("data", result.payload)]

/-- Whether all places and sizes of a graph are finite numbers. -/
def isFinite (g : Graph Number) : Bool :=
  g.nodes.all fun n => [n.x, n.y, n.width, n.height].all fun x => x.toFloat.isFinite

/-- Give the graph of a schema file. -/
def analyzeSchema (w : Workspace) (r : Request) : Answer := do
  let some value := given? (← r.fields) "schemaPath"
    | throw (.failure 400 "Schema path is required")
  let .text given := value | throw .stumble
  let path := Path.ofString given
  if !(← (w.files.isFile (w.located path)).mapError fun _ => .stumble) then
    throw (.failure 404 ("Schema file not found: " ++ given))
  let (_, graph) ← orReason (w.schema path true)
  if !isFinite graph then throw .stumble
  match graph.payload with
  | .table fields => return .ok (fields ++ [("fileName", .text path.name)])
  | _ => throw .stumble

/-- Show a file. -/
def readFile (w : Workspace) (r : Request) : Answer := do
  let fields ← r.fields
  let file ← match given? fields "filePath" with
    | none => pure ""
    | some (.text s) => pure s
    | some _ => throw .stumble
  let root ← match given? fields "projectRoot" with
    | none => pure none
    | some (.text s) => pure (some s)
    | some _ => if file.isEmpty then pure none else throw .stumble
  match Preview.read w.files w.workingDirectory file root readLimit with
  | .ok preview =>
    return .ok [("content", .text preview.content), ("filePath", .text preview.filePath)]
  | .error (.missing _) => throw (.failure 404 "File not found")
  | .error (.tooLarge _ _) => throw (.failure 413 "File too large to display")
  | .error (.linkLoop _) => throw .stumble
  | .error error => throw (.failure 400 error.message)

/-- Say that the service is there. -/
def health : Reply := .ok [("message", .text "Analysis API is working")]

/-- The path of a request without query and without slashes at its end. -/
def Request.route (r : Request) : String :=
  let path := r.path.toList.takeWhile fun c => c ≠ '?' && c ≠ '#'
  String.ofList (path.reverse.dropWhile (· == '/')).reverse

/-- Whether a request has a method. -/
def Request.asks (r : Request) (method : String) : Bool := r.method.toUpper == method

/-- The answer at a path that serves `POST` requests. -/
def posted (r : Request) (answer : Request → Answer) : Reply :=
  if r.asks "POST" then
    match answer r with
    | .ok reply | .error reply => reply
  else .notAllowed

/-- The reply of a path. -/
def route (w : Workspace) (r : Request) : Reply :=
  match r.route with
  | "/api/analyze" =>
    if r.asks "GET" || r.asks "HEAD" then health else posted r (analyze w)
  | "/api/analyze-dependencies" => posted r (analyzeDependencies w)
  | "/api/analyze-schema" => posted r (analyzeSchema w)
  | "/api/read-file" => posted r (readFile w)
  | _ => .notFound

/-- The reply to a request. Where only its head is asked for nothing but the status is given. -/
def reply (w : Workspace) (r : Request) : Reply :=
  let answer := route w r
  if r.asks "HEAD" then { answer with content := .plain "" } else answer

end SiteAtlas.Service
