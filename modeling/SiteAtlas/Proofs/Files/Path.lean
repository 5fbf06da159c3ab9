import SiteAtlas.Files.Path
import SiteAtlas.Proofs.Text.Pieces
import Mathlib.Data.String.Basic

/-! # A path and its text

Reading a path leaves names that can be told apart when it is written, and neither going on from
another path nor collapsing brings in others. So a written path reads back as itself, and paths with
the same text are the same.
-/

namespace SiteAtlas.Path

/-- Whether a name can stand between the slashes of a path. -/
def IsPart (name : String) : Prop := name ≠ "" ∧ name ≠ "." ∧ '/' ∉ name.toList

/-- A path that can be read off its text. -/
structure Proper (p : Path) : Prop where
  /-- Three leading slashes and more do not count. -/
  slashes : p.slashes ≤ 2
  /-- The names can be told apart. -/
  parts : ∀ name ∈ p.parts, IsPart name

theorem proper_iff {p : Path} : p.Proper ↔ p.slashes ≤ 2 ∧
    ∀ name ∈ p.parts, name ≠ "" ∧ name ≠ "." ∧ '/' ∉ name.toList :=
  ⟨fun proper => ⟨proper.slashes, proper.parts⟩, fun both => ⟨both.1, both.2⟩⟩

instance (p : Path) : Decidable p.Proper := decidable_of_iff _ proper_iff.symm

theorem proper_ofString (text : String) : (ofString text).Proper where
  slashes := by
    change leadingSlashes text ≤ 2
    unfold leadingSlashes
    dsimp only
    split <;> omega
  parts := by
    intro name member
    obtain ⟨member, kept⟩ := List.mem_filter.mp member
    obtain ⟨piece, isPiece, rfl⟩ := List.mem_map.mp member
    have free : '/' ∉ piece := Text.notMem_of_mem_splitOn isPiece
    simp only [Bool.and_eq_true, bne_iff_ne, ne_eq] at kept
    exact ⟨kept.1, kept.2, by rwa [String.toList_ofList]⟩

theorem Proper.slash_notMem_name {p : Path} (proper : p.Proper) : '/' ∉ p.name.toList := by
  rw [name, List.getLastD_eq_getLast?]
  cases last : p.parts.getLast? with
  | none => decide
  | some name => exact (proper.parts name (List.mem_of_getLast? last)).2.2

theorem Proper.join {base p : Path} (proper : base.Proper) (proper' : p.Proper) :
    (base.join p).Proper := by
  unfold Path.join
  split
  · exact proper'
  · refine ⟨proper.slashes, fun name member => ?_⟩
    exact (List.mem_append.mp member).elim (proper.parts name) (proper'.parts name)

/-- Collapsing brings in no name but `..`. -/
theorem mem_collapseParts {absolute : Bool} {done names : List String} {name : String}
    (member : name ∈ collapseParts absolute done names) :
    name ∈ done ∨ name ∈ names ∨ name = ".." := by
  fun_induction collapseParts absolute done names with
  | case1 done => exact .inl member
  | case2 rest ih =>
    rcases ih member with start | behind | up
    · split at start
      · exact absurd start List.not_mem_nil
      · exact .inr (.inr (List.mem_singleton.mp start))
    · exact .inr (.inl (List.mem_cons_of_mem _ behind))
    · exact .inr (.inr up)
  | case3 rest before ih =>
    rcases ih member with start | behind | up
    · rcases List.mem_cons.mp start with up | start
      · exact .inr (.inr up)
      · exact .inl start
    · exact .inr (.inl (List.mem_cons_of_mem _ behind))
    · exact .inr (.inr up)
  | case4 rest last before other ih =>
    rcases ih member with start | behind | up
    · exact .inl (List.mem_cons_of_mem _ start)
    · exact .inr (.inl (List.mem_cons_of_mem _ behind))
    · exact .inr (.inr up)
  | case5 done part rest other ih =>
    rcases ih member with start | behind | up
    · rcases List.mem_cons.mp start with rfl | start
      · exact .inr (.inl List.mem_cons_self)
      · exact .inl start
    · exact .inr (.inl (List.mem_cons_of_mem _ behind))
    · exact .inr (.inr up)

theorem Proper.collapse {p : Path} (proper : p.Proper) : p.collapse.Proper where
  slashes := proper.slashes
  parts := by
    intro name member
    rcases mem_collapseParts (List.mem_reverse.mp member) with start | given | rfl
    · exact absurd start List.not_mem_nil
    · exact proper.parts name given
    · exact ⟨by decide, by decide, by decide⟩

theorem Proper.absolute {workingDirectory p : Path} (proper : workingDirectory.Proper)
    (proper' : p.Proper) : (absolute workingDirectory p).Proper :=
  (proper.join proper').collapse

/-! ## Collapsed paths -/

section Collapsing

variable {isAbsolute : Bool}

theorem collapseParts_keep {done rest : List String} {part : String} (other : part ≠ "..") :
    collapseParts isAbsolute done (part :: rest) =
      collapseParts isAbsolute (part :: done) rest := by
  rw [collapseParts]
  exact other

theorem collapseParts_up {before rest : List String} {last : String} (other : last ≠ "..") :
    collapseParts isAbsolute (last :: before) (".." :: rest) =
      collapseParts isAbsolute before rest := by
  rw [collapseParts, if_neg other]

theorem collapseParts_upUp {before rest : List String} :
    collapseParts isAbsolute (".." :: before) (".." :: rest) =
      collapseParts isAbsolute (".." :: ".." :: before) rest := by
  rw [collapseParts, if_pos rfl]

theorem collapseParts_append (done first second : List String) :
    collapseParts isAbsolute done (first ++ second) =
      collapseParts isAbsolute (collapseParts isAbsolute done first) second := by
  fun_induction collapseParts isAbsolute done first with
  | case1 done => rfl
  | case2 rest ih => exact ih
  | case3 rest before ih => exact collapseParts_upUp.trans ih
  | case4 rest last before other ih => exact (collapseParts_up other).trans ih
  | case5 done part rest other ih => exact (collapseParts_keep other).trans ih

end Collapsing

/-- The characters of a written path, but for the empty relative one. -/
def characters (p : Path) : List Char :=
  List.replicate p.slashes '/' ++ ['/'].intercalate (p.parts.map String.toList)

theorem toString_eq (p : Path) :
    p.toString = if p.characters = [] then "." else String.ofList p.characters := by
  have text : String.ofList (List.replicate p.slashes '/') ++ "/".intercalate p.parts =
      String.ofList p.characters := by
    rw [characters, ← String.toList_inj, String.toList_append, String.toList_ofList,
      String.toList_ofList, String.toList_intercalate]
    rfl
  rw [toString, text]
  simp

section Written

variable {p q : Path} (proper : p.Proper)
include proper

/-- The names begin where the leading slashes end. -/
theorem Proper.takeWhile_characters :
    p.characters.takeWhile (· == '/') = List.replicate p.slashes '/' := by
  have start : (['/'].intercalate (p.parts.map String.toList)).takeWhile (· == '/') = [] := by
    cases names : p.parts with
    | nil => rfl
    | cons first rest =>
      obtain ⟨filled, -, free⟩ := proper.parts first (names ▸ List.mem_cons_self)
      have nonempty : first.toList ≠ [] := by simpa using filled
      obtain ⟨c, behind, chars⟩ := List.exists_cons_of_ne_nil nonempty
      have other : c ≠ '/' := by
        rintro rfl
        exact free (chars ▸ List.mem_cons_self)
      rw [List.map_cons, chars, List.intercalate_cons_cons_left,
        List.takeWhile_cons_of_neg (by simpa using other)]
  rw [characters, List.takeWhile_append_of_pos (by simp), start, List.append_nil]

/-- Cutting the text at its slashes gives the names, and nothing for a leading slash. -/
theorem Proper.pieces_characters :
    ((p.characters.splitOn '/').map String.ofList).filter
      (fun part => part != "" && part != ".") = p.parts := by
  have names : (((['/'].intercalate (p.parts.map String.toList)).splitOn '/').map
      String.ofList).filter (fun part => part != "" && part != ".") = p.parts := by
    by_cases empty : p.parts = []
    · rw [empty]
      rfl
    · have free : ∀ piece ∈ p.parts.map String.toList, '/' ∉ piece := by
        intro piece member
        obtain ⟨name, isName, rfl⟩ := List.mem_map.mp member
        exact (proper.parts name isName).2.2
      rw [List.splitOn_intercalate '/' free (by simpa using empty), List.map_map]
      have read : String.ofList ∘ String.toList = id := funext fun _ => String.ofList_toList
      rw [read, List.map_id, List.filter_eq_self]
      intro name member
      obtain ⟨filled, notDot, -⟩ := proper.parts name member
      simp [filled, notDot]
  rw [characters]
  induction p.slashes with
  | zero => exact names
  | succ n ih =>
    rw [List.replicate_succ, List.cons_append, List.splitOn_cons_eq_if_modifyHead,
      if_pos (beq_self_eq_true '/'), List.map_cons, List.filter_cons_of_neg (by simp), ih]

/-- A written path reads back as itself. -/
theorem Proper.ofString_toString : ofString p.toString = p := by
  rw [toString_eq]
  split
  next empty =>
    obtain ⟨none, rest⟩ := List.append_eq_nil_iff.mp empty
    have noSlashes : p.slashes = 0 := by simpa using none
    have noParts : p.parts = [] := by
      rw [← proper.pieces_characters, empty]
      rfl
    obtain ⟨slashes, parts⟩ := p
    obtain rfl : slashes = 0 := noSlashes
    obtain rfl : parts = [] := noParts
    decide
  next =>
    have slashes : leadingSlashes (String.ofList p.characters) = p.slashes := by
      have few := proper.slashes
      simp only [leadingSlashes, String.toList_ofList, proper.takeWhile_characters,
        List.length_replicate, if_pos few]
    have parts : (splitSlashes (String.ofList p.characters)).filter
        (fun part => part != "" && part != ".") = p.parts := by
      rw [splitSlashes, String.toList_ofList]
      exact proper.pieces_characters
    rw [ofString, slashes, parts]

end Written

theorem toString_inj {p q : Path} (proper : p.Proper) (proper' : q.Proper) :
    p.toString = q.toString ↔ p = q := by
  constructor
  · intro same
    rw [← proper.ofString_toString, same, proper'.ofString_toString]
  · exact congrArg toString

end SiteAtlas.Path
