import SiteAtlas.Proofs.Files.Descent
import SiteAtlas.Proofs.Imports.Spellings
import SiteAtlas.Proofs.Text.Utf8
import Mathlib.Data.String.Basic

/-! # Sources that are too long

No folder has an entry with a name of more than 255 bytes, and the system does not look for one. A
source without slashes that is longer is looked for in the project's root, and with the search the
analysis of its script comes to nothing, although the script can be read and is well-formed.
-/

namespace SiteAtlas

/-! ## Scripts with one import -/

namespace Script

/-- An import statement up to its source. -/
def importStart : List Char := ['i', 'm', 'p', 'o', 'r', 't', ' ', '"']

/-- A script that imports a source for nothing but its effects. -/
def importText (source : List Char) : String :=
  String.ofList (importStart ++ (source ++ ['"', ';', '\n']))

/-- Whether a text stands for itself between quotes. -/
def IsPlain (text : List Char) : Prop := ∀ c ∈ text, c ≠ '"' ∧ c ≠ '\\' ∧ c ≠ '\n' ∧ c ≠ '\r'

variable {source : List Char}

theorem quotedLength?_of_isPlain (plain : IsPlain source) (length : Nat) (rest : List Char) :
    quotedLength? '"' length (source ++ '"' :: rest) = some (length + (source.length + 1)) := by
  induction source generalizing length with
  | nil => rfl
  | cons c source ih =>
    obtain ⟨⟨mark, escape, lineFeed, carriageReturn⟩, others⟩ := List.forall_mem_cons.mp plain
    rw [List.cons_append, quotedLength?, if_neg mark, if_neg (by simp [lineFeed, carriageReturn]),
      ih others, List.length_cons, Nat.add_comm (source.length + 1) 1, Nat.add_assoc]
    all_goals simp [escape]

theorem skip_blank (out : List Tree) (newLine : Bool) (rest : List Char) :
    Reader.skip ⟨' ' :: '"' :: rest, out, newLine⟩ = ⟨'"' :: rest, out, newLine⟩ := by
  have isBlank : (decide (' ' = '/') || isSpace ' ') = true := by decide
  have passed : passBlanks .between 0 newLine (' ' :: '"' :: rest) = ('"' :: rest, 0, newLine) := by
    cases newLine <;> rfl
  rw [Reader.skip]
  dsimp only
  rw [if_pos isBlank, passed]
  rfl

/-- The string that a plain source is written as. -/
def quotedLeaf (source : List Char) : Tree :=
  .leaf .string (String.ofList ('"' :: (source ++ ['"'])))

theorem takeString_of_isPlain (plain : IsPlain source) (rest : List Char) :
    takeString ⟨' ' :: '"' :: (source ++ '"' :: rest), [], false⟩ =
      some ⟨rest, [quotedLeaf source], false⟩ := by
  have taken : (source ++ '"' :: rest).take (source.length + 1) = source ++ ['"'] := by
    rw [List.take_append, List.take_of_length_le (Nat.le_succ _), Nat.add_sub_cancel_left]
    rfl
  have left : (source ++ '"' :: rest).drop (source.length + 1) = rest := by
    rw [List.drop_append, List.drop_of_length_le (Nat.le_succ _), Nat.add_sub_cancel_left]
    rfl
  rw [takeString, skip_blank]
  dsimp only
  rw [if_pos (by decide), quotedLength?_of_isPlain plain, Option.map_some, Reader.takeLeaf,
    Nat.add_comm 1, List.take_succ_cons, List.drop_succ_cons, taken, left]
  rfl

theorem importStatement_of_isPlain (plain : IsPlain source) {g : Grammar}
    (javascript : g.dialect = .javascript) :
    importStatement g ⟨importStart ++ (source ++ ['"', ';', '\n']), [], false⟩ =
      some ⟨['\n'], [.node .importStatement [quotedLeaf source]], false⟩ := by
  have taken := takeString_of_isPlain plain [';', '\n']
  generalize source ++ ['"', ';', '\n'] = rest at taken ⊢
  have word : eatWord "import" ⟨importStart ++ rest, [], false⟩ =
      some ⟨' ' :: '"' :: rest, [], false⟩ := rfl
  have noType : seesTypeImport g ⟨' ' :: '"' :: rest, [], false⟩ = false := by
    rw [seesTypeImport, Grammar.types, javascript]
    rfl
  have quoted : Reader.seesString ⟨' ' :: '"' :: rest, [], false⟩ = true := by
    rw [Reader.seesString, skip_blank]
    rfl
  rw [importStatement, asNode]
  change Option.map _ (inOrder _ ⟨importStart ++ rest, [], false⟩) = _
  rw [inOrder, List.foldlM_cons, word]
  simp only [List.foldlM_cons, whenSeen, noType, quoted, taken, Option.bind_eq_bind,
    Option.bind_some, ↓reduceIte, Bool.false_eq_true]
  rfl

theorem statementRule_importStart (g : Grammar) (rest : List Char) :
    statementRule g ⟨importStart ++ rest, [], false⟩ =
      importStatement g ⟨importStart ++ rest, [], false⟩ := by
  have isImport : Reader.seesWord ⟨importStart ++ rest, [], false⟩ "import" = true := rfl
  have word : Reader.word ⟨importStart ++ rest, [], false⟩ = "import" := rfl
  have behind : Reader.afterWord ⟨importStart ++ rest, [], false⟩ =
      ⟨' ' :: '"' :: rest, [.leaf .other "import"], false⟩ := by
    rw [Reader.afterWord, Reader.after, takeWord, word]
    rfl
  have noCall : Reader.seesAny ⟨' ' :: '"' :: rest, [.leaf .other "import"], false⟩ ["(", "."] =
      false := rfl
  rw [statementRule, isImport, behind, noCall]
  rfl

theorem trees?_importText (plain : IsPlain source) :
    trees? .javascript (importText source) = some [.node .importStatement [quotedLeaf source]] := by
  have read (bound depth : Nat) := importStatement_of_isPlain plain
    (g := ⟨.javascript, bound, parse .javascript bound depth⟩) rfl
  have step (bound depth : Nat) (s : Reader) : parse .javascript bound (depth + 1) .statement s =
      statementRule ⟨.javascript, bound, parse .javascript bound depth⟩ s := rfl
  rw [trees?, importText, String.toList_ofList]
  generalize source ++ ['"', ';', '\n'] = rest at read ⊢
  have whole : withoutInterpreter (importStart ++ rest) = importStart ++ rest := rfl
  rw [whole]
  generalize (importStart ++ rest).length = length
  obtain ⟨depth, deep⟩ : ∃ depth, (length + 16) * 16 = depth + 1 := ⟨length * 16 + 255, by omega⟩
  have skipped : Reader.skip ⟨importStart ++ rest, [], false⟩ =
      ⟨importStart ++ rest, [], false⟩ := rfl
  have goesOn : Reader.atEnd ⟨importStart ++ rest, [], false⟩ = false := rfl
  rw [statements, deep, repeatUntil, skipped, goesOn, if_neg Bool.false_ne_true, step,
    statementRule_importStart, read]
  rfl

/-- The source is the only import of such a script. -/
theorem imports_importText (plain : IsPlain source) :
    imports trees? (importText source) ".js" =
      .ok [{ source := String.ofList source, form := .statement }] := by
  have dialect : Dialect.ofExtension? ".js" = some .javascript := rfl
  have unquoted : unquote? (quotedLeaf source) = some (String.ofList source) := by
    rw [quotedLeaf, unquote?, String.toList_ofList]
    dsimp only
    rw [List.getLast?_concat, if_pos rfl, List.dropLast_concat]
  have statement : importOf? (.node .importStatement [quotedLeaf source]) =
      some { source := String.ofList source, form := .statement } := by
    rw [importOf?, importStatement?, source?, List.find?_cons_of_pos rfl, Option.bind_some,
      unquoted]
    rfl
  rw [imports, dialect]
  dsimp only
  rw [trees?_importText plain]
  dsimp only
  rw [importsOfAll, importsOf, statement]
  rfl

/-- Such a script is read as it is written. -/
theorem ofBytes_importText (plain : IsPlain source) :
    Text.ofBytes (importText source).toUTF8 = importText source := by
  refine Text.ofBytes_toUTF8 fun member => ?_
  rw [importText, String.toList_ofList, List.mem_append, List.mem_append] at member
  rcases member with start | inside | rest
  · exact absurd start (by decide)
  · exact (plain _ inside).2.2.2 rfl
  · exact absurd rest (by decide)

end Script

/-! ## Names that are too long -/

/-- A name that is too long is looked for in no folder. -/
theorem FileSystem.refuses_child {fs : FileSystem} {folder : Path} {location : List String}
    {entries : List (String × FileNode)} {name : String} (located : fs.locate folder = .ok location)
    (here : fs.node? location = some (.folder entries)) (absent : ∀ e ∈ entries, e.1 ≠ name)
    (noUp : name ≠ "..") (long : nameLimit < name.utf8ByteSize) :
    fs.Refuses (folder.child name) := by
  obtain ⟨last, run, rfl⟩ := locate_eq_ok_iff.mp located
  have nothing : fs.node? (name :: last).reverse = none := by
    have noEntry : entries.find? (fun e => e.1 == name) = none :=
      List.find?_eq_none.mpr fun e member => by simpa using absent e member
    rw [List.reverse_cons, node?, FileNode.at?_append here, FileNode.at?, FileNode.entry?,
      FileNode.entries, noEntry]
    rfl
  have stops (follow : List String → List String → Except FileError (List String)) :
      scan fs true follow last [name] = .error .tooLong := by
    rw [scan, nothing]
    · dsimp only
      rw [if_pos rfl, absence, if_pos long]
    · exact noUp
  have refused : walk fs true linkLimit [] (folder.child name).parts = .error .tooLong :=
    walk_append (.refl fs) (.inr ⟨entries, here⟩) stops run
  rw [Refuses, lookup, locate, refused]
  simp [Except.map, Except.mapError, bind, Except.bind]

namespace Resolver

variable {r : Resolver}

/-- A source without slashes that names nothing else is looked for in the project's root. -/
theorem sought_of_isPart (root : r.root.IsNormal) {source : String} (isPart : Path.IsPart source)
    (noDot : source.toList.head? ≠ some '.') (noAlias : r.afterAlias? source = none)
    (importer : Path) : r.sought source importer = r.root.child source := by
  have proper : (⟨0, [source]⟩ : Path).Proper :=
    ⟨Nat.zero_le 2, fun name member => List.mem_singleton.mp member ▸ isPart⟩
  have read : Path.ofString source = ⟨0, [source]⟩ := by
    have text : (⟨0, [source]⟩ : Path).toString = source := by
      have nonempty : source.isEmpty = false := by simpa using isPart.1
      simp [Path.toString, nonempty]
    rw [← proper.ofString_toString, text]
  have noUp : ".." ∉ r.root.parts ++ [source] := by
    rw [List.mem_append, not_or]
    refine ⟨root.noUp, fun member => noDot ?_⟩
    rw [← List.mem_singleton.mp member]
    rfl
  rw [sought, if_neg noDot, noAlias, Option.getD_none, read]
  change Path.collapse ⟨r.root.slashes, r.root.parts ++ [source]⟩ = _
  rw [Path.collapse, Path.collapseParts_of_notMem noUp, List.append_nil, List.reverse_reverse]
  rfl

/-- The search for such a source stops if it is too long. -/
theorem stopsAt_of_isPart (root : r.root.IsNormal) {location : List String}
    {entries : List (String × FileNode)} (located : r.files.locate r.root = .ok location)
    (here : r.files.node? location = some (.folder entries)) {source : String}
    (absent : ∀ e ∈ entries, e.1 ≠ source) (isPart : Path.IsPart source)
    (noDot : source.toList.head? ≠ some '.') (noAlias : r.afterAlias? source = none)
    (long : FileSystem.nameLimit < source.utf8ByteSize) (importer : Path) :
    r.files.StopsAt (r.sought source importer) (r.root.child source) := by
  rw [sought_of_isPart root isPart noDot noAlias]
  refine ⟨.first _ _, FileSystem.refuses_child located here absent ?_ long⟩
  rintro rfl
  exact noDot rfl

/-- A script cannot be analysed if the search for one of its sources stops. -/
theorem not_canAnalyze_of_stopsAt {path p : Path} (isScript : path.isScript = true)
    {raw : RawImport} (given : raw ∈ r.statements path)
    (stops : r.files.StopsAt (r.sought raw.source path) p) : ¬ r.CanAnalyze path := by
  rw [canAnalyze_iff isScript]
  exact fun all => exists_resolve_iff.mp (all raw given) ⟨p, stops⟩

end Resolver

/-! ## A name of 300 letters -/

/-- The letters of a name that is too long. -/
def longName : List Char := List.replicate 300 'x'

theorem eq_of_mem_longName {c : Char} (member : c ∈ longName) : c = 'x' :=
  List.eq_of_mem_replicate member

theorem isPlain_longName : Script.IsPlain longName := by
  intro c member
  rw [eq_of_mem_longName member]
  decide

theorem ne_longName {name : String} (short : name.length < 300) :
    name ≠ String.ofList longName := by
  rintro rfl
  rw [String.length_ofList, longName, List.length_replicate] at short
  exact lt_irrefl 300 short

theorem nameLimit_lt_longName : FileSystem.nameLimit < (String.ofList longName).utf8ByteSize := by
  rw [String.utf8ByteSize_ofList]
  decide +kernel

theorem isPart_longName : Path.IsPart (String.ofList longName) := by
  refine ⟨(ne_longName (by decide)).symm, (ne_longName (by decide)).symm, ?_⟩
  rw [String.toList_ofList]
  exact fun member => absurd (eq_of_mem_longName member) (by decide)

namespace Resolver

/-- Whether a project has the usual alias and parser, and its root is a folder whose entries have
shorter names. -/
structure HasShortNames (r : Resolver) : Prop where
  root : r.root.IsNormal
  aliasPrefix : r.aliasPrefix = "@/"
  parser : r.parser = Script.trees?
  folder : ∃ location entries, r.files.locate r.root = .ok location ∧
    r.files.node? location = some (.folder entries) ∧ ∀ e ∈ entries, e.1.length < 300

variable {r : Resolver} (usual : r.HasShortNames)
include usual

/-- The search for the long name stops. -/
theorem HasShortNames.stopsAt_longName (importer : Path) :
    r.files.StopsAt (r.sought (String.ofList longName) importer)
      (r.root.child (String.ofList longName)) := by
  obtain ⟨location, entries, located, here, short⟩ := usual.folder
  have noAlias : r.afterAlias? (String.ofList longName) = none := by
    rw [afterAlias?, usual.aliasPrefix, String.toList_ofList]
    decide +kernel
  refine stopsAt_of_isPart usual.root located here (fun e member => ne_longName (short e member))
    isPart_longName ?_ noAlias nameLimit_lt_longName importer
  rw [String.toList_ofList]
  decide

/-- A script that imports the long name cannot be analysed. -/
theorem HasShortNames.not_canAnalyze_importText {path : Path} (isScript : path.isScript = true)
    (extension : path.extension = ".js")
    (read : r.files.text path = .ok (Script.importText longName)) : ¬ r.CanAnalyze path := by
  have given : { source := String.ofList longName, form := .statement } ∈
      r.statements path := by
    rw [statements, usual.parser, read]
    dsimp only
    rw [extension, Script.imports_importText isPlain_longName]
    exact List.mem_singleton_self _
  exact not_canAnalyze_of_stopsAt isScript given (usual.stopsAt_longName path)

end Resolver

end SiteAtlas
