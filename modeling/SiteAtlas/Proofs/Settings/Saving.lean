import SiteAtlas.Proofs.Files.Writing
import SiteAtlas.Proofs.Settings.Loading
import SiteAtlas.Proofs.Text.Utf8
import SiteAtlas.Proofs.Value.Same

/-! # Settings that are saved

A save reads the whole file, puts its values over those of one section and writes all of it again.
If the documents that are written are read back, then after any saves every key has the value of the
last save that set it, or else the one that it had in the file before, and each save leaves all that
it does not set.

A text that is no document counts as one without sections when it is loaded, and so does a missing
file. A save that follows cannot tell the two apart: it writes its own section and nothing else over
the text, and answers that all was written.
-/

namespace SiteAtlas.Settings

open Value (Same)

/-- Values that are saved to a section. -/
structure Save where
  /-- The name of the section. -/
  name : String
  /-- The values by their keys; of two under one key the later one counts. -/
  values : Fields

/-- What a save sets under a key of a section. -/
def Save.sets? (save : Save) (name key : String) : Option Value :=
  if save.name = name then Fields.get? save.values.reverse key else none

/-- What the last save sets of those that set a key of a section. -/
def lastSet? (saves : List Save) (name key : String) : Option Value :=
  saves.reverse.findSome? fun save => save.sets? name key

section Files

variable (format : Format)

/-- Save one after the other, and tell whether all were written. -/
def saveAll (files : FileSystem) (path : Path) : List Save → Except StoreError (FileSystem × Bool)
  | [] => .ok (files, true)
  | save :: rest => do
    let (files, written) ← saveSection format files path save.name save.values
    let (files, others) ← saveAll files path rest
    return (files, written && others)

/-- The document that a save writes. -/
def updated (files : FileSystem) (path : Path) (save : Save) : Except StoreError Fields := do
  let document ← load format files path
  let own ← sectionTable document save.name
  return document.set save.name (.table (own.merge save.values))

/-- The documents that saves write, one after the other. -/
def written (files : FileSystem) (path : Path) : List Save → List Fields
  | [] => []
  | save :: rest =>
    match updated format files path save with
    | .error _ => []
    | .ok document => document :: written (files.write path (format.render document)) path rest

/-- Whether a document that is written is read back, the order of keys aside. -/
def ReadsBack (document : Fields) : Prop :=
  ∃ again, format.read? (Text.withLineFeeds (format.render document)) = some again ∧
    (Value.table again).Same (.table document)

end Files

/-- Whether the section of a name is a table, if it is there. -/
def IsTableIn (document : Fields) (name : String) : Prop :=
  ∀ value, document.get? name = some value → value.isTable = true

variable {format : Format} {files : FileSystem} {path : Path} {name : String} {save : Save}
  {saves rest : List Save} {document middle after : Fields}

theorem lastSet?_cons (save : Save) (saves : List Save) (name key : String) :
    lastSet? (save :: saves) name key = (lastSet? saves name key).or (save.sets? name key) := by
  rw [lastSet?, List.reverse_cons, List.findSome?_append, List.findSome?_singleton]
  rfl

theorem lastSet?_singleton (save : Save) (name key : String) :
    lastSet? [save] name key = save.sets? name key :=
  lastSet?_cons save [] name key

/-! ## Documents after saves -/

/-- What a document says after some saves. -/
structure After (saves : List Save) (document after : Fields) : Prop where
  /-- The last save counts, and without one the document as it was. -/
  setting : ∀ name key, Option.Rel Same (after.setting? name key)
    ((lastSet? saves name key).or (document.setting? name key))
  /-- Sections that are not saved to stay. -/
  others : ∀ name, (∀ save ∈ saves, save.name ≠ name) →
    Option.Rel Same (after.get? name) (document.get? name)
  /-- What was a table is one. -/
  isTable : ∀ name, IsTableIn document name → IsTableIn after name

theorem After.refl (document : Fields) : After [] document document where
  setting _ _ := Value.rel_same_refl _
  others _ _ := Value.rel_same_refl _
  isTable _ isTable := isTable

theorem After.cons (first : After [save] document middle) (others : After rest middle after) :
    After (save :: rest) document after where
  setting name key := by
    have before := Value.rel_same_or (lastSet? rest name key) (first.setting name key)
    rw [← Option.or_assoc, lastSet?_singleton, ← lastSet?_cons] at before
    exact Value.rel_same_trans (others.setting name key) before
  others name elsewhere := by
    obtain ⟨notFirst, notRest⟩ := List.forall_mem_cons.mp elsewhere
    refine Value.rel_same_trans (others.others name notRest) (first.others name ?_)
    exact List.forall_mem_singleton.mpr notFirst
  isTable name isTable := others.isTable name (first.isTable name isTable)

/-- A document that says the same as one with the values of a save put into a section. -/
theorem after_of_same {own : Fields}
    (holds : ∀ key, own.get? key = document.setting? save.name key)
    (same : (Value.table after).Same
      (.table (document.set save.name (.table (own.merge save.values))))) :
    After [save] document after := by
  have sections (name : String) : Option.Rel Same (after.get? name)
      (if save.name = name then some (.table (own.merge save.values))
        else document.get? name) := by
    rw [← Fields.get?_set]
    exact Value.same_table_iff.mp same name
  refine ⟨fun name key => ?_, fun name elsewhere => ?_, fun name isTable value found => ?_⟩
  · have found := Value.rel_same_get? (sections name) key
    rw [lastSet?_singleton, Save.sets?]
    by_cases here : save.name = name
    · subst here
      rw [if_pos rfl] at found ⊢
      rw [← holds key, ← Fields.get?_merge]
      exact found
    · rw [if_neg here] at found ⊢
      exact found
  · have found := sections name
    rwa [if_neg (elsewhere save List.mem_cons_self)] at found
  · have same := sections name
    rw [found] at same
    split at same
    next =>
      obtain ⟨same⟩ := same
      obtain ⟨fields, rfl⟩ := same.exists_table
      rfl
    next =>
      cases was : document.get? name with
      | none =>
        rw [was] at same
        cases same
      | some old =>
        rw [was] at same
        obtain ⟨same⟩ := same
        cases old with
        | table fields =>
          obtain ⟨others, rfl⟩ := same.exists_table
          rfl
        | _ => cases isTable _ was

/-! ## Saves -/

/-- The values of a section that is a table are those under its keys. -/
theorem exists_sectionTable (isTable : IsTableIn document name) :
    ∃ own, sectionTable document name = .ok own ∧
      ∀ key, own.get? key = document.setting? name key := by
  unfold sectionTable Fields.setting?
  cases found : document.get? name with
  | none => exact ⟨[], rfl, fun key => rfl⟩
  | some value =>
    cases value with
    | table fields => exact ⟨fields, rfl, fun key => rfl⟩
    | _ => cases isTable _ found

/-- What is saved later does not matter to what is written first. -/
theorem isPrefix_written_append (format : Format) (files : FileSystem) (path : Path)
    (saves more : List Save) :
    written format files path saves <+: written format files path (saves ++ more) := by
  induction saves generalizing files with
  | nil => exact List.nil_prefix
  | cons save rest ih =>
    rw [List.cons_append, written, written]
    cases updated format files path save with
    | error e => exact List.prefix_rfl
    | ok made => exact List.prefix_cons_inj made |>.mpr (ih _)

/-- A save that is read back leaves the document with its values in it. -/
theorem exists_saveSection (takes : files.Takes path)
    (loaded : load format files path = .ok document)
    (isTable : IsTableIn document save.name)
    (readsBack : ∀ made, updated format files path save = .ok made → ReadsBack format made) :
    ∃ made after, updated format files path save = .ok made ∧
      saveSection format files path save.name save.values =
        .ok (files.write path (format.render made), true) ∧
      load format (files.write path (format.render made)) path = .ok after ∧
      After [save] document after := by
  obtain ⟨own, isOwn, holds⟩ := exists_sectionTable isTable
  have made : updated format files path save =
      .ok (document.set save.name (.table (own.merge save.values))) := by
    simp only [updated, bind_eq_ok_iff]
    exact ⟨document, loaded, own, isOwn, rfl⟩
  obtain ⟨again, read, same⟩ := readsBack _ made
  refine ⟨_, again, made, ?_, ?_, after_of_same holds same⟩
  · simp only [saveSection, bind_eq_ok_iff]
    refine ⟨document, loaded, own, isOwn, ?_⟩
    rw [store, takes.hasFolder_eq_false]
    rfl
  · rw [load, takes.content_write]
    dsimp only
    rw [Text.ofBytesStrict_toUTF8]
    dsimp only
    rw [read]
    rfl

/-- Saves that are read back leave the document with their values in it, and a file that can be
saved to again. -/
theorem exists_saveAll (takes : files.Takes path)
    (loaded : load format files path = .ok document)
    (areTables : ∀ save ∈ saves, IsTableIn document save.name)
    (readsBack : ∀ made ∈ written format files path saves, ReadsBack format made) :
    ∃ files' after, saveAll format files path saves = .ok (files', true) ∧ files'.Takes path ∧
      load format files' path = .ok after ∧ After saves document after ∧
      ∀ more, written format files path (saves ++ more) =
        written format files path saves ++ written format files' path more := by
  induction saves generalizing files document with
  | nil => exact ⟨files, document, rfl, takes, loaded, .refl document, fun more => rfl⟩
  | cons save rest ih =>
    obtain ⟨isTable, areTables⟩ := List.forall_mem_cons.mp areTables
    have first : ∀ made, updated format files path save = .ok made → ReadsBack format made := by
      intro made isMade
      refine readsBack made ?_
      rw [written, isMade]
      exact List.mem_cons_self
    obtain ⟨made, middle, isMade, saved, loadedNext, afterFirst⟩ :=
      exists_saveSection takes loaded isTable first
    have writtenFirst (more : List Save) : written format files path (save :: more) =
        made :: written format (files.write path (format.render made)) path more := by
      rw [written, isMade]
    rw [writtenFirst] at readsBack
    obtain ⟨files', after, savedAll, takesAll, loadedAll, afterRest, writtenRest⟩ :=
      ih (takes.write _) loadedNext
        (fun other member => afterFirst.isTable _ (areTables other member))
        (List.forall_mem_cons.mp readsBack).2
    refine ⟨files', after, ?_, takesAll, loadedAll, afterFirst.cons afterRest, fun more => ?_⟩
    · rw [saveAll, saved]
      change (saveAll format (files.write path (format.render made)) path rest >>= _) = _
      rw [savedAll]
      rfl
    · rw [List.cons_append, writtenFirst, writtenFirst, writtenRest, List.cons_append]

/-- Saves to a file that is there as a text, or new, succeed if every document that they write is
read back. Under each key of each section there is then the value of the last save that set it, or
else the one of the file before, or none; sections that were not saved to are the same as a whole.
Every one of the saves leaves the keys that it does not set, in its own section and in all
others. -/
theorem saves_keep_and_set (takes : files.Takes path)
    (loaded : load format files path = .ok document)
    (areTables : ∀ save ∈ saves, IsTableIn document save.name)
    (readsBack : ∀ made ∈ written format files path saves, ReadsBack format made) :
    (∃ files' after, saveAll format files path saves = .ok (files', true) ∧
      load format files' path = .ok after ∧
      (∀ name key, Option.Rel Same (after.setting? name key)
        ((lastSet? saves name key).or (document.setting? name key))) ∧
      ∀ name, (∀ save ∈ saves, save.name ≠ name) →
        Option.Rel Same (after.get? name) (document.get? name)) ∧
    ∀ front save back, saves = front ++ save :: back →
      ∃ files₁ before files₂ after, saveAll format files path front = .ok (files₁, true) ∧
        load format files₁ path = .ok before ∧
        saveSection format files₁ path save.name save.values = .ok (files₂, true) ∧
        load format files₂ path = .ok after ∧
        (∀ name key, save.sets? name key = none →
          Option.Rel Same (after.setting? name key) (before.setting? name key)) ∧
        ∀ name, save.name ≠ name → Option.Rel Same (after.get? name) (before.get? name) := by
  constructor
  · obtain ⟨files', after, saved, -, loadedAll, afterAll, -⟩ :=
      exists_saveAll takes loaded areTables readsBack
    exact ⟨files', after, saved, loadedAll, afterAll.setting, afterAll.others⟩
  · rintro front save back rfl
    obtain ⟨frontTables, moreTables⟩ := List.forall_mem_append.mp areTables
    obtain ⟨files₁, before, savedFront, takes₁, loaded₁, afterFront, writtenMore⟩ :=
      exists_saveAll takes loaded frontTables fun made member =>
        readsBack made
          ((isPrefix_written_append format files path front (save :: back)).subset member)
    have isTable : IsTableIn before save.name :=
      afterFront.isTable _ (moreTables save List.mem_cons_self)
    have first : ∀ made, updated format files₁ path save = .ok made → ReadsBack format made := by
      intro made isMade
      refine readsBack made ?_
      rw [writtenMore, written, isMade]
      exact List.mem_append_right _ List.mem_cons_self
    obtain ⟨made, after, -, saved, loaded₂, step⟩ := exists_saveSection takes₁ loaded₁ isTable first
    refine ⟨files₁, before, _, after, savedFront, loaded₁, saved, loaded₂, ?_, ?_⟩
    · intro name key unset
      have kept := step.setting name key
      rwa [lastSet?_singleton, unset] at kept
    · intro name elsewhere
      exact step.others name (List.forall_mem_singleton.mpr elsewhere)

/-! ## Saves to a file with an inner table -/

/-- A test whether a save writes a text that is read back, both as the same document. -/
def writesTest (format : Format) (files : FileSystem) (path : Path) (save : Save)
    (document : Fields) (text : String) : Bool :=
  match updated format files path save with
  | .error _ => false
  | .ok made =>
    format.render made == text && Value.saysSame (.table document) (.table made) &&
      (format.read? (Text.withLineFeeds text)).any fun again =>
        Value.saysSame (.table document) (.table again)

theorem readsBack_cons_of_writesTest {text : String}
    (test : writesTest format files path save document text = true)
    (others : ∀ made ∈ written format (files.write path text) path rest, ReadsBack format made) :
    ∀ made ∈ written format files path (save :: rest), ReadsBack format made := by
  unfold writesTest at test
  rw [written]
  cases isMade : updated format files path save with
  | error e =>
    rw [isMade] at test
    cases test
  | ok made =>
    rw [isMade, Bool.and_eq_true, Bool.and_eq_true, beq_iff_eq, Option.any_eq_true] at test
    obtain ⟨⟨rfl, isDocument⟩, again, read, isAgain⟩ := test
    have same : (Value.table again).Same (.table made) :=
      (Value.same_of_saysSame isAgain).symm.trans (Value.same_of_saysSame isDocument)
    exact List.forall_mem_cons.mpr ⟨⟨again, read, same⟩, others⟩

/-- A system with a file of settings only. -/
def settingsFile (text : String) : FileSystem :=
  ⟨.folder [("config.toml", .file text.toUTF8)]⟩

/-- The path of that file. -/
def settingsPath : Path := ⟨1, ["config.toml"]⟩

theorem write_settingsFile (text new : String) :
    (settingsFile text).write settingsPath new = settingsFile new := rfl

theorem takes_settingsFile (text : String) : (settingsFile text).Takes settingsPath :=
  .inl ⟨text.toUTF8, rfl⟩

theorem load_settingsFile (text : String) : load format (settingsFile text) settingsPath =
    .ok (sectionsAt format (settingsFile text) settingsPath) := by
  refine load_eq_ok_iff.mpr ⟨fun content read => ?_, rfl⟩
  obtain rfl : text.toUTF8 = content := Except.ok.inj read
  exact ⟨_, Text.ofBytesStrict_toUTF8 text⟩

/-- Two saves to one section with a save to another one in between. -/
def threeSaves : List Save :=
  [⟨"layout", [("gap", .number (.whole 8))]⟩, ⟨"analysis", [("alias", .text "~/")]⟩,
    ⟨"layout", [("gap", .number (.whole 9))]⟩]

/-- The inner table is written last, and so read behind the keys that were set after it. -/
theorem readsBack_threeSaves :
    ∀ made ∈ written .toml (settingsFile "[layout.deep]\nlevel = 1\n") settingsPath threeSaves,
      ReadsBack .toml made := by
  let deep : String × Value := ("deep", .table [("level", .number (.whole 1))])
  let analysis : String × Value := ("analysis", .table [("alias", .text "~/")])
  have first : writesTest .toml (settingsFile "[layout.deep]\nlevel = 1\n") settingsPath
      ⟨"layout", [("gap", .number (.whole 8))]⟩
      [("layout", .table [("gap", .number (.whole 8)), deep])]
      "[layout]\ngap = 8\n\n[layout.deep]\nlevel = 1\n" = true := by
    decide +kernel
  have second : writesTest .toml (settingsFile "[layout]\ngap = 8\n\n[layout.deep]\nlevel = 1\n")
      settingsPath ⟨"analysis", [("alias", .text "~/")]⟩
      [("layout", .table [("gap", .number (.whole 8)), deep]), analysis]
      "[layout]\ngap = 8\n\n[analysis]\nalias = \"~/\"\n\n[layout.deep]\nlevel = 1\n" = true := by
    decide +kernel
  have third : writesTest .toml
      (settingsFile
        "[layout]\ngap = 8\n\n[analysis]\nalias = \"~/\"\n\n[layout.deep]\nlevel = 1\n")
      settingsPath ⟨"layout", [("gap", .number (.whole 9))]⟩
      [("layout", .table [("gap", .number (.whole 9)), deep]), analysis]
      "[layout]\ngap = 9\n\n[analysis]\nalias = \"~/\"\n\n[layout.deep]\nlevel = 1\n" = true := by
    decide +kernel
  refine readsBack_cons_of_writesTest first ?_
  rw [write_settingsFile]
  refine readsBack_cons_of_writesTest second ?_
  rw [write_settingsFile]
  refine readsBack_cons_of_writesTest third ?_
  exact fun made none => absurd none List.not_mem_nil

theorem saves_keep_and_set_threeSaves :
    let files := settingsFile "[layout.deep]\nlevel = 1\n"
    files.Takes settingsPath ∧
    (∀ save ∈ threeSaves, IsTableIn (sectionsAt .toml files settingsPath) save.name) ∧
    (∀ made ∈ written .toml files settingsPath threeSaves, ReadsBack .toml made) ∧
    ∃ document files' after, load .toml files settingsPath = .ok document ∧
      saveAll .toml files settingsPath threeSaves = .ok (files', true) ∧
      load .toml files' settingsPath = .ok after ∧
      Option.Rel Same (after.setting? "layout" "gap") (some (.number (.whole 9))) ∧
      Option.Rel Same (after.setting? "analysis" "alias") (some (.text "~/")) ∧
      Option.Rel Same (after.setting? "layout" "deep") (document.setting? "layout" "deep") := by
  intro files
  have takes : files.Takes settingsPath := takes_settingsFile _
  have loaded : load .toml files settingsPath = _ := load_settingsFile _
  have areTables : ∀ save ∈ threeSaves,
      IsTableIn (sectionsAt .toml files settingsPath) save.name := by
    have test : threeSaves.all (fun save =>
        ((sectionsAt .toml files settingsPath).get? save.name).all Value.isTable) = true := by
      decide +kernel
    intro save member value found
    simpa [found] using List.all_eq_true.mp test save member
  obtain ⟨⟨files', after, saved, loadedAll, settings, -⟩, -⟩ :=
    saves_keep_and_set takes loaded areTables readsBack_threeSaves
  have isGap : lastSet? threeSaves "layout" "gap" = some (.number (.whole 9)) := rfl
  have isAlias : lastSet? threeSaves "analysis" "alias" = some (.text "~/") := rfl
  have unset : lastSet? threeSaves "layout" "deep" = none := rfl
  have gap := settings "layout" "gap"
  have ofAlias := settings "analysis" "alias"
  have kept := settings "layout" "deep"
  rw [isGap, Option.some_or] at gap
  rw [isAlias, Option.some_or] at ofAlias
  rw [unset, Option.none_or] at kept
  exact ⟨takes, areTables, readsBack_threeSaves, _, files', after, loaded, saved, loadedAll, gap,
    ofAlias, kept⟩

/-! ## Saves to a file that cannot be read -/

section Overwriting

variable {content : ByteArray} {text : String}

/-- A text that is no document has no sections. -/
theorem load_of_rejected (there : files.content path = .ok content)
    (decoded : Text.ofBytesStrict content = .ok text) (rejected : format.read? text = none) :
    load format files path = .ok [] := by
  simp only [load, there, decoded, rejected, Option.getD_none]

/-- What a save writes where nothing was read. -/
theorem saveSection_of_load_nil (takes : files.Takes path)
    (loaded : load format files path = .ok [])
    (name : String) (values : Fields) :
    saveSection format files path name values =
      .ok (files.write path (format.render [(name, .table (Fields.merge [] values))]), true) := by
  simp only [saveSection, loaded, bind_eq_ok_iff]
  refine ⟨[], rfl, [], rfl, ?_⟩
  rw [store, takes.hasFolder_eq_false]
  rfl

/-- Whatever is read back from a document of one section has no other section. -/
theorem get?_eq_none_of_same {name other : String} {values after : Fields}
    (same : (Value.table after).Same (.table [(name, .table values)])) (elsewhere : other ≠ name) :
    after.get? other = none := by
  have found := Value.same_table_iff.mp same other
  rw [Fields.get?_cons, if_neg elsewhere.symm] at found
  cases missing : after.get? other with
  | none => rfl
  | some value =>
    rw [missing] at found
    cases found

/-- A save to a file whose text is no document answers that it has written. The text is then that of
the saved section alone, as if there had been no file, and if it is read back there is no other
section in it, whatever stood in the text before. -/
theorem rejected_text_overwritten (there : files.content path = .ok content)
    (decoded : Text.ofBytesStrict content = .ok text) (rejected : format.read? text = none)
    (name : String) (values : Fields) :
    let document : Fields := [(name, .table (Fields.merge [] values))]
    ∃ files', saveSection format files path name values = .ok (files', true) ∧
      files'.content path = .ok (format.render document).toUTF8 ∧
      (ReadsBack format document → ∃ after, load format files' path = .ok after ∧
        ∀ other, other ≠ name → after.get? other = none) := by
  intro document
  have takes : files.Takes path := .inl ⟨content, there⟩
  have loaded := load_of_rejected there decoded rejected
  refine ⟨_, saveSection_of_load_nil takes loaded name values, takes.content_write _, ?_⟩
  rintro ⟨after, read, same⟩
  refine ⟨after, ?_, fun other elsewhere => get?_eq_none_of_same same elsewhere⟩
  rw [load, takes.content_write]
  dsimp only
  rw [Text.ofBytesStrict_toUTF8]
  dsimp only
  rw [read]
  rfl

/-- A file with a section, and with a header that is not closed behind it. -/
def brokenText : String := "[layout]\nroot_x = 5\n[broken\n"

/-- What is saved to it. -/
def savedAlias : Fields := [("alias_prefix", .text "~/")]

theorem rejected_text_overwritten_brokenText :
    (settingsFile brokenText).content settingsPath = .ok brokenText.toUTF8 ∧
      Text.ofBytesStrict brokenText.toUTF8 = .ok brokenText ∧ Format.toml.read? brokenText = none ∧
      ∃ files', saveSection .toml (settingsFile brokenText) settingsPath "analysis" savedAlias =
          .ok (files', true) ∧
        files'.content settingsPath = .ok "[analysis]\nalias_prefix = \"~/\"\n".toUTF8 := by
  have there : (settingsFile brokenText).content settingsPath = .ok brokenText.toUTF8 := rfl
  have decoded : Text.ofBytesStrict brokenText.toUTF8 = .ok brokenText := by
    rw [Text.ofBytesStrict_toUTF8]
    decide +kernel
  have rejected : Format.toml.read? brokenText = none := by
    have test : (Format.toml.read? brokenText).isNone = true := by decide +kernel
    exact Option.isNone_iff_eq_none.mp test
  have rendered : Format.toml.render [("analysis", .table (Fields.merge [] savedAlias))] =
      "[analysis]\nalias_prefix = \"~/\"\n" := by
    decide +kernel
  obtain ⟨files', saved, written, -⟩ :=
    rejected_text_overwritten there decoded rejected "analysis" savedAlias
  rw [rendered] at written
  exact ⟨there, decoded, rejected, files', saved, written⟩

/-- The text and the section in it are gone, and the answer is not that nothing was written. -/
theorem brokenText_destroyed :
    (saveSection .toml (settingsFile brokenText) settingsPath "analysis" savedAlias).map
        (fun saved => ((saved.1.text settingsPath).toOption, saved.2)) =
      .ok (some "[analysis]\nalias_prefix = \"~/\"\n", true) := by
  decide +kernel

end Overwriting

end SiteAtlas.Settings
