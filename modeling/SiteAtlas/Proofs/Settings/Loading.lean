import SiteAtlas.Settings.Store
import SiteAtlas.Proofs.Settings.Conversion

/-! # When stored settings can be loaded

A file of settings that is missing, or whose text is no document, has no sections, and a missing
section sets nothing. Bytes that are no text are not passed over, nor is every section that is no
table: for the options of a walk a row of pairs stands for a table and an empty text sets nothing,
for measures a text or a list without their keys sets nothing, and the rest stops the loading. What
a section gives to a loader is a relation here, apart from the errors of the loader.
-/

namespace SiteAtlas.Settings

variable {format : Format} {files : FileSystem} {path userFile root : Path} {name : String}
  {keys : List String} {document fields : Fields}

/-- The file at a path, if there is one, is a text. -/
def IsTextAt (files : FileSystem) (path : Path) : Prop :=
  ∀ content, files.content path = .ok content → ∃ text, Text.ofBytesStrict content = .ok text

section Files

variable (format : Format)

/-- The sections of the file at a path. There are none without a file, without a text in it and
without a document in the text. -/
def sectionsAt (files : FileSystem) (path : Path) : Fields :=
  match files.content path with
  | .error _ => []
  | .ok content =>
    match Text.ofBytesStrict content with
    | .error _ => []
    | .ok text => (format.read? text).getD []

/-- The section of a name in the file at a path. -/
def sectionAt (files : FileSystem) (path : Path) (name : String) : Option Value :=
  (sectionsAt format files path).get? name

/-- A row of a section written as a list, and the key and value that it sets: two items, the first
of which can be a key, two characters, or a table of two keys. A key that is no text sets
nothing. -/
inductive IsRow : Value → Option (String × Value) → Prop
  | named (key : String) (value : Value) : IsRow (.list [.text key, value]) (some (key, value))
  | unnamed (key value : Value) (notText : ∀ s, key ≠ .text s)
      (notList : ∀ items, key ≠ .list items) (notTable : key.isTable = false) :
      IsRow (.list [key, value]) none
  | characters (a b : Char) :
      IsRow (.text (String.ofList [a, b])) (some (String.singleton a, .text (String.singleton b)))
  | keys (a b : String) (x y : Value) : IsRow (.table [(a, x), (b, y)]) (some (a, .text b))

/-- What a section of the options of a walk sets. -/
inductive Gives : Option Value → Fields → Prop
  | absent : Gives none []
  | table (fields : Fields) : Gives (some (.table fields)) fields
  | emptyText : Gives (some (.text "")) []
  | rows (items : List Value) (pairs : List (Option (String × Value)))
      (areRows : List.Forall₂ IsRow items pairs) :
      Gives (some (.list items)) (Fields.merge [] (pairs.filterMap id))

/-- What a section of measures sets, when it is looked into for some keys. -/
inductive Offers (keys : List String) : Option Value → Fields → Prop
  | absent : Offers keys none []
  | table (fields : Fields) : Offers keys (some (.table fields)) fields
  | text (s : String) (lacks : ∀ key ∈ keys, Text.contains key.toList s.toList = false) :
      Offers keys (some (.text s)) []
  | list (items : List Value) (lacks : ∀ key ∈ keys, Value.text key ∉ items) :
      Offers keys (some (.list items)) []

/-- The options of a walk that a file sets. -/
def GivenAt (files : FileSystem) (path : Path) (fields : Fields) : Prop :=
  IsTextAt files path ∧ Gives (sectionAt format files path "analysis") fields

/-- The measures that a section of a file sets. -/
def OfferedAt (files : FileSystem) (path : Path) (name : String) (keys : List String)
    (fields : Fields) : Prop :=
  IsTextAt files path ∧ Offers keys (sectionAt format files path name) fields

end Files

/-! ## Files and sections -/

theorem load_eq_ok_iff :
    load format files path = .ok document ↔
      IsTextAt files path ∧ sectionsAt format files path = document := by
  unfold load IsTextAt sectionsAt
  cases files.content path with
  | error e => simp
  | ok content =>
    cases read : Text.ofBytesStrict content with
    | error mistake => simp [read]
    | ok text => simp [read]

section Rows

variable {place : Nat} {item : Value} {pair? : Option (String × Value)}

theorem IsRow.pairOfItem_eq (row : IsRow item pair?) : pairOfItem place item = .ok pair? := by
  cases row with
  | named key value => rfl
  | unnamed key value notText notList notTable =>
    cases key with
    | text s => exact absurd rfl (notText s)
    | list items => exact absurd rfl (notList items)
    | table fields => cases notTable
    | _ => rfl
  | characters a b => simp [pairOfItem]
  | keys a b x y => rfl

/-- An item that is read as a pair has two parts: a text two characters, a list two items, and a
table two keys. -/
theorem isRow_of_pairOfItem (success : pairOfItem place item = .ok pair?) : IsRow item pair? := by
  cases item with
  | text s =>
    match characters : s.toList with
    | [a, b] =>
      obtain rfl : s = String.ofList [a, b] := by rw [← characters, String.ofList_toList]
      obtain rfl : some (String.singleton a, .text (String.singleton b)) = pair? := by
        simpa [pairOfItem] using success
      exact .characters a b
    | [] | [_] | _ :: _ :: _ :: _ => simp [pairOfItem, characters] at success
  | list items =>
    match items with
    | [key, value] =>
      cases key <;> simp [pairOfItem] at success <;> subst success
      case text key => exact .named key value
      all_goals exact .unnamed _ _ (by simp) (by simp) rfl
    | [] | [_] | _ :: _ :: _ :: _ => simp [pairOfItem] at success
  | table fields =>
    match fields with
    | [(a, x), (b, y)] =>
      obtain rfl : some (a, .text b) = pair? := by simpa [pairOfItem] using success
      exact .keys a b x y
    | [] | [_] | _ :: _ :: _ :: _ => simp [pairOfItem] at success
  | _ => simp [pairOfItem] at success

theorem pairOfItem_eq_ok_iff : pairOfItem place item = .ok pair? ↔ IsRow item pair? :=
  ⟨isRow_of_pairOfItem, IsRow.pairOfItem_eq⟩

end Rows

theorem mapM_pairOfItem_eq_ok_iff {items : List Value} {pairs : List (Option (String × Value))} :
    (items.zipIdx.mapM fun (item, place) => pairOfItem place item) = .ok pairs ↔
      List.Forall₂ IsRow items pairs := by
  -- The place of an item shows in errors only.
  simp only [mapM_eq_ok_iff, pairOfItem_eq_ok_iff]
  calc List.Forall₂ (fun indexed pair? => IsRow indexed.1 pair?) items.zipIdx pairs
    _ ↔ List.Forall₂ IsRow (items.zipIdx.map (·.1)) pairs := List.forall₂_map_left_iff.symm
    _ ↔ List.Forall₂ IsRow items pairs := by rw [List.zipIdx_map_fst]

theorem tableOf_eq_ok_iff {value : Value} :
    tableOf value = .ok fields ↔ Gives (some value) fields := by
  cases value with
  | table own =>
    constructor
    · intro success
      obtain rfl : own = fields := by simpa [tableOf] using success
      exact .table own
    · rintro ⟨⟩
      rfl
  | text s =>
    constructor
    · intro success
      by_cases empty : s = ""
      · obtain rfl : [] = fields := by simpa [tableOf, empty] using success
        rw [empty]
        exact .emptyText
      · simp [tableOf, empty] at success
    · rintro ⟨⟩
      rfl
  | list items =>
    simp only [tableOf, bind_eq_ok_iff, mapM_pairOfItem_eq_ok_iff, pure, Except.pure,
      Except.ok.injEq]
    constructor
    · rintro ⟨pairs, areRows, rfl⟩
      exact .rows items pairs areRows
    · intro gives
      cases gives with
      | rows items pairs areRows => exact ⟨pairs, areRows, rfl⟩
  | _ => simp [tableOf]; rintro ⟨⟩

theorem sectionTable_eq_ok_iff :
    sectionTable document name = .ok fields ↔ Gives (document.get? name) fields := by
  unfold sectionTable
  cases document.get? name with
  | some value => exact tableOf_eq_ok_iff
  | none =>
    constructor
    · intro success
      obtain rfl : [] = fields := by simpa using success
      exact .absent
    · rintro ⟨⟩
      rfl

/-- Without a table, a section that holds a key is refused and any other sets nothing. -/
theorem refused_or_empty_iff {refused : Bool} {error : StoreError} :
    (if refused then Except.error error else Except.ok []) = Except.ok fields ↔
      refused = false ∧ fields = [] := by
  cases refused <;> simp [eq_comm]

theorem sectionWith_eq_ok_iff :
    sectionWith document name keys = .ok fields ↔ Offers keys (document.get? name) fields := by
  unfold sectionWith
  cases document.get? name with
  | none =>
    constructor
    · intro success
      obtain rfl : [] = fields := by simpa using success
      exact .absent
    · rintro ⟨⟩
      rfl
  | some value =>
    cases value with
    | table own =>
      constructor
      · intro success
        obtain rfl : own = fields := by simpa using success
        exact .table own
      · rintro ⟨⟩
        rfl
    | text s =>
      rw [refused_or_empty_iff]
      constructor
      · rintro ⟨lacks, rfl⟩
        exact .text s (by simpa using lacks)
      · intro offers
        cases offers with
        | text s lacks => simpa using lacks
    | list items =>
      rw [refused_or_empty_iff]
      constructor
      · rintro ⟨lacks, rfl⟩
        refine .list items fun key isKey listed => ?_
        simpa [isKey] using List.any_eq_false.mp lacks (.text key) listed
      · intro offers
        cases offers with
        | list items lacks =>
          refine ⟨List.any_eq_false.mpr fun item listed => ?_, rfl⟩
          cases item with
          | text s =>
            intro isKey
            exact lacks s (by simpa using isKey) listed
          | _ => simp
    | _ => simp; rintro ⟨⟩

section Measures

variable {β : Type} {read : Fields → Except ReadError β}

/-- Measures are read from what a section offers. -/
theorem offered_eq_ok_iff {result : β} :
    (do
      let fields ← sectionWith (← load format files path) name keys
      (read fields).mapError .reading) = Except.ok result ↔
      ∃ fields, OfferedAt format files path name keys fields ∧ read fields = .ok result := by
  simp only [bind_eq_ok_iff, load_eq_ok_iff, sectionWith_eq_ok_iff, mapError_eq_ok_iff]
  constructor
  · rintro ⟨document, ⟨isText, rfl⟩, fields, offers, success⟩
    exact ⟨fields, ⟨isText, offers⟩, success⟩
  · rintro ⟨fields, ⟨isText, offers⟩, success⟩
    exact ⟨_, ⟨isText, rfl⟩, fields, offers, success⟩

theorem exists_offered_iff :
    (∃ result, (do
      let fields ← sectionWith (← load format files path) name keys
      (read fields).mapError .reading) = Except.ok result) ↔
      ∃ fields, OfferedAt format files path name keys fields ∧
        ∃ result, read fields = .ok result := by
  simp only [offered_eq_ok_iff]
  constructor
  · rintro ⟨result, fields, offered, success⟩
    exact ⟨fields, offered, result, success⟩
  · rintro ⟨fields, offered, result, success⟩
    exact ⟨result, fields, offered, success⟩

end Measures

theorem loadTreeSpacing_eq_ok_iff {spacing : TreeSpacing Number} :
    loadTreeSpacing format files userFile = .ok spacing ↔
      ∃ fields, OfferedAt format files userFile "layout" TreeSpacing.keys fields ∧
        TreeSpacing.ofFields fields = .ok spacing :=
  offered_eq_ok_iff

theorem loadForceSettings_eq_ok_iff {settings : ForceSettings Number} :
    loadForceSettings format files userFile = .ok settings ↔
      ∃ fields, OfferedAt format files userFile "schema_layout" ForceSettings.keys fields ∧
        ForceSettings.ofFields fields = .ok settings :=
  offered_eq_ok_iff

theorem loadAnalysis_eq_ok_iff {settings : AnalysisSettings} :
    loadAnalysis format files userFile none = .ok settings ↔
      ∃ own, GivenAt format files userFile own ∧ .ofFields own = settings := by
  simp only [loadAnalysis, bind_eq_ok_iff, load_eq_ok_iff, sectionTable_eq_ok_iff]
  constructor
  · rintro ⟨document, ⟨isText, rfl⟩, own, gives, success⟩
    exact ⟨own, ⟨isText, gives⟩, Except.ok.inj success⟩
  · rintro ⟨own, ⟨isText, gives⟩, rfl⟩
    exact ⟨_, ⟨isText, rfl⟩, own, gives, rfl⟩

theorem loadAnalysis_project_eq_ok_iff {settings : AnalysisSettings} :
    loadAnalysis format files userFile (some root) = .ok settings ↔
      ∃ own project, GivenAt format files userFile own ∧
        GivenAt format files (root.child projectFileName) project ∧
        .ofFields (own.merge project) = settings := by
  simp only [loadAnalysis, bind_eq_ok_iff, load_eq_ok_iff, sectionTable_eq_ok_iff]
  constructor
  · rintro ⟨_, ⟨isText, rfl⟩, own, gives, _, ⟨projectIsText, rfl⟩, project, projectGives, success⟩
    exact ⟨own, project, ⟨isText, gives⟩, ⟨projectIsText, projectGives⟩, Except.ok.inj success⟩
  · rintro ⟨own, project, ⟨isText, gives⟩, ⟨projectIsText, projectGives⟩, rfl⟩
    exact ⟨_, ⟨isText, rfl⟩, own, gives, _, ⟨projectIsText, rfl⟩, project, projectGives, rfl⟩

/-- The options of a walk are loaded exactly if each of the two files is a text or missing and its
section sets something or nothing; then they are what the user's section sets with what the
project's sets over it. A layout's measures are loaded exactly if the user's file is a text or
missing, its section is looked into without finding a key outside a table, and every measure found
can be read; then they are read from there. -/
theorem settings_loaded_iff (format : Format) (files : FileSystem) (userFile : Path) :
    (∀ settings, loadAnalysis format files userFile none = .ok settings ↔
      ∃ own, GivenAt format files userFile own ∧ .ofFields own = settings) ∧
    (∀ root settings, loadAnalysis format files userFile (some root) = .ok settings ↔
      ∃ own project, GivenAt format files userFile own ∧
        GivenAt format files (root.child projectFileName) project ∧
        .ofFields (own.merge project) = settings) ∧
    ((∃ spacing, loadTreeSpacing format files userFile = .ok spacing) ↔
      ∃ fields, OfferedAt format files userFile "layout" TreeSpacing.keys fields ∧
        ∀ key ∈ TreeSpacing.keys, Fits TreeSpacing.wholeKeys fields key) ∧
    (∀ spacing, loadTreeSpacing format files userFile = .ok spacing ↔
      ∃ fields, OfferedAt format files userFile "layout" TreeSpacing.keys fields ∧
        TreeSpacing.ofFields fields = .ok spacing) ∧
    ((∃ settings, loadForceSettings format files userFile = .ok settings) ↔
      ∃ fields, OfferedAt format files userFile "schema_layout" ForceSettings.keys fields ∧
        ∀ key ∈ ForceSettings.keys, Fits ForceSettings.wholeKeys fields key) ∧
    (∀ settings, loadForceSettings format files userFile = .ok settings ↔
      ∃ fields, OfferedAt format files userFile "schema_layout" ForceSettings.keys fields ∧
        ForceSettings.ofFields fields = .ok settings) := by
  refine ⟨fun _ => loadAnalysis_eq_ok_iff, fun _ _ => loadAnalysis_project_eq_ok_iff, ?_,
    fun _ => loadTreeSpacing_eq_ok_iff, ?_, fun _ => loadForceSettings_eq_ok_iff⟩
  · calc (∃ spacing, loadTreeSpacing format files userFile = .ok spacing)
      _ ↔ ∃ fields, OfferedAt format files userFile "layout" TreeSpacing.keys fields ∧
          ∃ spacing, TreeSpacing.ofFields fields = .ok spacing := exists_offered_iff
      _ ↔ _ := by simp only [TreeSpacing.exists_ofFields_iff]
  · calc (∃ settings, loadForceSettings format files userFile = .ok settings)
      _ ↔ ∃ fields, OfferedAt format files userFile "schema_layout" ForceSettings.keys fields ∧
          ∃ settings, ForceSettings.ofFields fields = .ok settings := exists_offered_iff
      _ ↔ _ := by simp only [ForceSettings.exists_ofFields_iff]

/-- The loading stops at a byte that begins no character, at a section that is a number, and at an
infinite number of attempts. -/
theorem loading_stops :
    let files (name : String) (content : ByteArray) : FileSystem :=
      ⟨.folder [(name, .file content)]⟩
    let classed (error : StoreError) := (error, error.errorClass)
    (loadAnalysis .toml (files "nextgraph.toml" ⟨#[0xff]⟩) ⟨1, ["config.toml"]⟩
      (some ⟨1, []⟩)).mapError classed = .error (.notText ⟨0, 1, 0xff, .start⟩, .undecodable) ∧
    (loadAnalysis .toml (files "config.toml" "analysis = 5".toUTF8) ⟨1, ["config.toml"]⟩
      none).mapError classed = .error (.noItems "int", .wrongType) ∧
    ((loadTreeSpacing .toml (files "config.toml" "[layout]\ncollision_max_attempts = inf".toUTF8)
      ⟨1, ["config.toml"]⟩).map fun _ => ()).mapError classed =
        .error (.reading .infinite, .overflow) := by
  decide +kernel

end SiteAtlas.Settings
