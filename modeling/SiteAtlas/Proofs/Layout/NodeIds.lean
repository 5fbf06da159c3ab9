import SiteAtlas.Layout.NodeId
import SiteAtlas.Proofs.Text.Pieces
import Mathlib.Data.List.Basic
import Mathlib.Data.List.DropRight

/-! # When two folders have the same id

The id of a folder is its path, with dashes between the names, where all names are plain; any other
path gets a digest at its end. Two different paths share an id in two ways only. Plain names are
allowed a line feed at their end, which the id does not show unless it is the last one. And a plain
name can be spelled like the digest of another path.
-/

namespace SiteAtlas.NodeId

section Words

/-- A name that an entry of a folder can have. -/
def IsName (name : String) : Prop := name ≠ "" ∧ '/' ∉ name.toList

instance (name : String) : Decidable (IsName name) := inferInstanceAs (Decidable (_ ∧ _))

/-- The line feed at the end of a name, if it has one. -/
def lineFeed (name : String) : List Char :=
  if name.toList.getLast? = some '\n' then ['\n'] else []

/-- A name without the line feed at its end. -/
def word (name : String) : List Char :=
  if name.toList.getLast? = some '\n' then name.toList.dropLast else name.toList

theorem lineFeed_eq (name : String) : lineFeed name = [] ∨ lineFeed name = ['\n'] := by
  unfold lineFeed
  split
  · exact .inr rfl
  · exact .inl rfl

theorem word_append_lineFeed (name : String) : word name ++ lineFeed name = name.toList := by
  unfold word lineFeed
  split_ifs with ends
  · exact List.dropLast_append_getLast? _ ends
  · rw [List.append_nil]

theorem isClean_iff {name : String} :
    isClean name = true ↔ word name ≠ [] ∧ ∀ c ∈ word name, isPlain c = true := by
  change (!(word name).isEmpty && (word name).all isPlain) = true ↔ _
  simp only [Bool.and_eq_true, Bool.not_eq_true', List.isEmpty_eq_false_iff, List.all_eq_true]

theorem dash_notMem_word {name : String} (clean : isClean name = true) : '-' ∉ word name :=
  fun member => absurd ((isClean_iff.mp clean).2 _ member) (by decide)

/-- Names are equal if they are so without the line feeds at their ends and have the same of
these. -/
theorem eq_of_word_eq {name other : String} (words : word name = word other)
    (feeds : lineFeed name = lineFeed other) : name = other := by
  rw [← String.toList_inj, ← word_append_lineFeed, ← word_append_lineFeed other, words, feeds]

end Words

section Plain

/-- The line feed at the end of a path. -/
def lastFeed (names : List String) : List Char := (names.getLast?.map lineFeed).getD []

/-- The pieces between the dashes in the id of a path of plain names: the names without line feeds
and, if the path ends in one, an empty piece. -/
def pieces (names : List String) : List (List Char) :=
  names.map word ++ (lastFeed names).map fun _ => []

theorem lastFeed_eq (names : List String) : lastFeed names = [] ∨ lastFeed names = ['\n'] := by
  unfold lastFeed
  cases names.getLast? with
  | none => exact .inl rfl
  | some last => exact lineFeed_eq last

theorem pieces_cons_cons (first second : String) (rest : List String) :
    pieces (first :: second :: rest) = word first :: pieces (second :: rest) := by
  simp only [pieces, lastFeed, List.map_cons, List.getLast?_cons_cons, List.cons_append]

/-- Letters and digits stand for themselves. -/
theorem sanitizeFrom_append {plain : List Char} (nonempty : plain ≠ [])
    (letters : ∀ c ∈ plain, isPlain c = true) (dashed : Bool) (rest : List Char) :
    sanitizeFrom dashed (plain ++ rest) = plain ++ sanitizeFrom false rest := by
  induction plain generalizing dashed with
  | nil => exact absurd rfl nonempty
  | cons c plain ih =>
    rw [List.cons_append, sanitizeFrom, if_pos (letters c List.mem_cons_self), List.cons_append]
    cases plain with
    | nil => rfl
    | cons next plain =>
      rw [ih (List.cons_ne_nil _ _) (fun c member => letters c (List.mem_cons_of_mem _ member))]

/-- A line feed at the end of a plain name is swallowed by the dash behind it. -/
theorem sanitizeFrom_name_dash {name : String} (clean : isClean name = true) (dashed : Bool)
    (rest : List Char) : sanitizeFrom dashed (name.toList ++ '-' :: rest) =
      word name ++ '-' :: sanitizeFrom true rest := by
  obtain ⟨nonempty, letters⟩ := isClean_iff.mp clean
  rw [← word_append_lineFeed, List.append_assoc, sanitizeFrom_append nonempty letters]
  rcases lineFeed_eq name with bare | fed
  · rw [bare]
    rfl
  · rw [fed]
    rfl

/-- At the end of the path it becomes a dash of its own. -/
theorem sanitizeFrom_name {name : String} (clean : isClean name = true) (dashed : Bool) :
    sanitizeFrom dashed name.toList = ['-'].intercalate (pieces [name]) := by
  obtain ⟨nonempty, letters⟩ := isClean_iff.mp clean
  have own : pieces [name] = word name :: (lineFeed name).map fun _ => [] := rfl
  rw [← word_append_lineFeed, sanitizeFrom_append nonempty letters, own]
  rcases lineFeed_eq name with bare | fed
  · rw [bare]
    simp [sanitizeFrom, List.intercalate]
  · rw [fed]
    simp [sanitizeFrom, isPlain, List.intercalate]

/-- Plain names joined by dashes are the pieces joined by dashes. -/
theorem sanitizeFrom_joined {names : List String} (nonempty : names ≠ [])
    (clean : ∀ name ∈ names, isClean name = true) (dashed : Bool) :
    sanitizeFrom dashed (['-'].intercalate (names.map String.toList)) =
      ['-'].intercalate (pieces names) := by
  -- What stands before the first name does not matter: it begins with a letter or digit.
  induction names generalizing dashed with
  | nil => exact absurd rfl nonempty
  | cons first rest ih =>
    have cleanFirst := clean first List.mem_cons_self
    cases rest with
    | nil =>
      rw [List.map_singleton, List.intercalate_singleton, sanitizeFrom_name cleanFirst]
    | cons second rest =>
      have cleanRest : ∀ name ∈ second :: rest, isClean name = true :=
        fun name member => clean name (List.mem_cons_of_mem _ member)
      have nonemptyPieces : pieces (second :: rest) ≠ [] := by simp [pieces]
      obtain ⟨piece, others, isPieces⟩ := List.exists_cons_of_ne_nil nonemptyPieces
      rw [List.map_cons, List.map_cons, List.intercalate_cons_cons, List.append_assoc,
        List.singleton_append, sanitizeFrom_name_dash cleanFirst, ← List.map_cons,
        ih (List.cons_ne_nil _ _) cleanRest, pieces_cons_cons, isPieces,
        List.intercalate_cons_cons, List.append_assoc, List.singleton_append]

/-- The text that an id is made of: the names with dashes. -/
def base (names : List String) : List Char := (sanitize ("-".intercalate (root :: names))).toList

/-- The same without dashes at the end. -/
def stem (names : List String) : List Char := (base names).rdropWhile (· == '-')

theorem base_of_clean {names : List String} (clean : ∀ name ∈ names, isClean name = true) :
    base names = ['-'].intercalate (root.toList :: pieces names) := by
  have all : ∀ name ∈ root :: names, isClean name = true := by
    intro name member
    rcases List.mem_cons.mp member with rfl | member
    · decide
    · exact clean name member
  have first : pieces (root :: names) = root.toList :: pieces names := by
    cases names with
    | nil => rfl
    | cons name rest => exact pieces_cons_cons root name rest
  rw [base, sanitize, String.toList_ofList, String.toList_intercalate, ← first]
  exact sanitizeFrom_joined (List.cons_ne_nil _ _) all false

/-- The words of a path of plain names are not empty and have no dashes. -/
theorem forall_mem_words {names : List String} (clean : ∀ name ∈ names, isClean name = true) :
    ∀ piece ∈ root.toList :: names.map word, piece ≠ [] ∧ '-' ∉ piece := by
  intro piece member
  rcases List.mem_cons.mp member with rfl | member
  · decide
  · obtain ⟨name, isName, rfl⟩ := List.mem_map.mp member
    exact ⟨(isClean_iff.mp (clean name isName)).1, dash_notMem_word (clean name isName)⟩

/-- The path of plain names without line feeds does not end in a dash. -/
theorem rdropWhile_joined {names : List String} (clean : ∀ name ∈ names, isClean name = true) :
    (['-'].intercalate (root.toList :: names.map word)).rdropWhile (· == '-') =
      ['-'].intercalate (root.toList :: names.map word) := by
  refine List.rdropWhile_eq_self_iff.mpr fun nonempty dash => ?_
  have isLast := List.getLast?_eq_some_getLast (List.cons_ne_nil root.toList (names.map word))
  obtain ⟨letters, plain⟩ := forall_mem_words clean _ (List.mem_of_getLast? isLast)
  have last : (['-'].intercalate (root.toList :: names.map word)).getLast? = _ :=
    Text.getLast?_intercalate isLast letters
  rw [List.getLast?_eq_some_getLast nonempty, beq_iff_eq.mp dash] at last
  exact plain (List.mem_of_getLast? last.symm)

theorem stem_of_clean {names : List String} (clean : ∀ name ∈ names, isClean name = true) :
    stem names = ['-'].intercalate (root.toList :: names.map word) := by
  rw [stem, base_of_clean clean, pieces]
  rcases lastFeed_eq names with bare | fed
  · rw [bare, List.map_nil, List.append_nil, rdropWhile_joined clean]
  · rw [fed, List.map_singleton, ← List.cons_append,
      Text.intercalate_concat (List.cons_ne_nil _ _), List.append_nil,
      List.rdropWhile_concat_pos _ _ _ (by decide), rdropWhile_joined clean]

end Plain

section Ids

/-- What is added to the id of a path with a name that is not plain. -/
def digest (names : List String) : String := Md5.short 6 ("/".intercalate names)

theorem dash_notMem_digest (names : List String) : '-' ∉ (digest names).toList :=
  fun member => absurd (Md5.isAlphanum_of_mem_short member) (by decide)

theorem folder_of_clean {names : List String} (clean : ∀ name ∈ names, isClean name = true) :
    (folder names).toList = base names := by
  rw [folder, if_pos (List.all_eq_true.mpr clean), base]

theorem folder_of_not_clean {names : List String}
    (unclean : ¬ ∀ name ∈ names, isClean name = true) :
    (folder names).toList = stem names ++ '-' :: (digest names).toList := by
  rw [folder, if_neg (mt List.all_eq_true.mp unclean)]
  simp only [String.toList_append, String.toList_ofList, List.append_assoc]
  rfl

/-- A path is known from its names joined by slashes. -/
theorem eq_of_slashed_eq {p q : List String} (named : ∀ name ∈ p, IsName name)
    (named' : ∀ name ∈ q, IsName name) (nonempty : p ≠ []) (nonempty' : q ≠ [])
    (same : "/".intercalate p = "/".intercalate q) : p = q := by
  have cut {names : List String} (named : ∀ name ∈ names, IsName name) (nonempty : names ≠ []) :
      ("/".intercalate names).toList.splitOn '/' = names.map String.toList := by
    rw [String.toList_intercalate]
    refine List.splitOn_intercalate '/' ?_ (by simpa using nonempty)
    intro piece member
    obtain ⟨name, isName, rfl⟩ := List.mem_map.mp member
    exact (named name isName).2
  have names := cut named nonempty
  rw [same, cut named' nonempty'] at names
  exact List.map_injective_iff.mpr (fun _ _ => String.toList_inj.mp) names.symm

end Ids

section Files

theorem mem_sanitizeFrom {dashed : Bool} {text : List Char} {c : Char}
    (member : c ∈ sanitizeFrom dashed text) : isPlain c = true ∨ c = '-' := by
  induction text generalizing dashed with
  | nil => exact absurd member List.not_mem_nil
  | cons first rest ih =>
    unfold sanitizeFrom at member
    split_ifs at member with plain
    · rcases List.mem_cons.mp member with rfl | member
      · exact .inl plain
      · exact ih member
    · exact ih member
    · rcases List.mem_cons.mp member with rfl | member
      · exact .inr rfl
      · exact ih member

/-- The ids of folders have letters, digits and dashes only. -/
theorem mem_folder {names : List String} {c : Char} (member : c ∈ (folder names).toList) :
    isPlain c = true ∨ c = '-' := by
  have inBase (member : c ∈ base names) : isPlain c = true ∨ c = '-' := by
    rw [base, sanitize, String.toList_ofList] at member
    exact mem_sanitizeFrom member
  by_cases clean : ∀ name ∈ names, isClean name = true
  · rw [folder_of_clean clean] at member
    exact inBase member
  · rw [folder_of_not_clean clean] at member
    rcases List.mem_append.mp member with member | member
    · exact inBase ((List.rdropWhile_prefix _ _).subset member)
    · rcases List.mem_cons.mp member with rfl | member
      · exact .inr rfl
      · exact .inl (Md5.isAlphanum_of_mem_short member)

theorem colon_notMem_folder (names : List String) : ':' ∉ (folder names).toList :=
  fun member => absurd (mem_folder member) (by decide)

theorem toList_file (folderId : String) (index : Nat) :
    (file folderId index).toList =
      folderId.toList ++ ':' :: ("file-" ++ toString index).toList := by
  simp [file]

/-- The id of a file is that of no folder. -/
theorem file_ne_folder (folderId : String) (index : Nat) (names : List String) :
    file folderId index ≠ folder names := by
  intro same
  have colon := colon_notMem_folder names
  rw [← same, toList_file] at colon
  exact colon (List.mem_append_right _ List.mem_cons_self)

/-- The id of a file says which folder it lies in and which number it has there. -/
theorem file_eq_iff {p q : List String} {i j : Nat} :
    file (folder p) i = file (folder q) j ↔ folder p = folder q ∧ i = j := by
  have free (index : Nat) : ':' ∉ ("file-" ++ toString index).toList := by
    intro member
    rw [String.toList_append] at member
    rcases List.mem_append.mp member with member | member
    · exact absurd member (by decide)
    · rw [Nat.toString_eq_repr, Nat.toList_repr] at member
      exact absurd (Nat.isDigit_of_mem_toDigits (by decide) (by decide) member) (by decide)
  rw [← String.toList_inj, toList_file, toList_file, Text.append_cons_inj (free i) (free j),
    String.toList_inj, String.toList_inj]
  refine and_congr_right fun _ => ⟨fun same => ?_, fun same => by rw [same]⟩
  have digits := congrArg String.toList same
  rw [String.toList_append, String.toList_append] at digits
  have number := congrArg (Nat.ofDigitChars 10 · 0) (List.append_cancel_left digits)
  simpa only [Nat.toString_eq_ofList_toDigits, String.toList_ofList,
    Nat.ofDigitChars_ten_toDigits] using number

end Files

section Clashes

/-- Two paths of plain names that differ at most in line feeds at the ends of names other than the
last one. -/
def SameWords (p q : List String) : Prop :=
  ((∀ name ∈ p, isClean name = true) ∧ ∀ name ∈ q, isClean name = true) ∧
    p.map word = q.map word ∧ p.getLast? = q.getLast?

/-- A path of plain names whose last name is spelled like the digest of another path, while what
stands before it has the same stem. -/
def EndsInDigest (p q : List String) : Prop :=
  ((∀ name ∈ p, isClean name = true) ∧ ¬ ∀ name ∈ q, isClean name = true) ∧
    p.getLast? = some (digest q) ∧ stem p.dropLast = stem q

/-- Two paths that share an id. -/
def Clash (p q : List String) : Prop := SameWords p q ∨ EndsInDigest p q ∨ EndsInDigest q p

instance (p q : List String) : Decidable (SameWords p q) := inferInstanceAs (Decidable (_ ∧ _))

instance (p q : List String) : Decidable (EndsInDigest p q) := inferInstanceAs (Decidable (_ ∧ _))

instance (p q : List String) : Decidable (Clash p q) := inferInstanceAs (Decidable (_ ∨ _))

variable {p q : List String}

/-- The pieces of a path of plain names say what its words and its last name are. -/
theorem pieces_eq_iff (clean : ∀ name ∈ p, isClean name = true)
    (clean' : ∀ name ∈ q, isClean name = true) :
    pieces p = pieces q ↔ p.map word = q.map word ∧ p.getLast? = q.getLast? := by
  have last (words : p.map word = q.map word) (feeds : lastFeed p = lastFeed q) :
      p.getLast? = q.getLast? := by
    have lastWords := congrArg List.getLast? words
    rw [List.getLast?_map, List.getLast?_map] at lastWords
    unfold lastFeed at feeds
    cases isLast : p.getLast? <;> cases isLast' : q.getLast? <;> rw [isLast, isLast'] at lastWords
      <;> simp only [Option.map_none, Option.map_some, reduceCtorEq, Option.some.injEq] at lastWords
    rw [isLast, isLast'] at feeds
    rw [eq_of_word_eq lastWords feeds]
  have noEmpty {names : List String} (clean : ∀ name ∈ names, isClean name = true)
      (others : List (List Char)) : names.map word ≠ others ++ [[]] := by
    intro same
    have empty : [] ∈ root.toList :: names.map word := by simp [same]
    exact (forall_mem_words clean [] empty).1 rfl
  constructor
  · intro same
    unfold pieces at same
    rcases lastFeed_eq p with bare | fed <;> rcases lastFeed_eq q with bare' | fed' <;>
      simp only [*, List.map_nil, List.map_singleton, List.append_nil] at same
    · exact ⟨same, last same (bare.trans bare'.symm)⟩
    · exact absurd same (noEmpty clean _)
    · exact absurd same.symm (noEmpty clean' _)
    · have words := List.append_cancel_right same
      exact ⟨words, last words (fed.trans fed'.symm)⟩
  · rintro ⟨words, lasts⟩
    rw [pieces, pieces, words, lastFeed, lastFeed, lasts]

theorem base_eq_iff (clean : ∀ name ∈ p, isClean name = true)
    (clean' : ∀ name ∈ q, isClean name = true) :
    base p = base q ↔ p.map word = q.map word ∧ p.getLast? = q.getLast? := by
  have cut {names : List String} (clean : ∀ name ∈ names, isClean name = true) :
      (base names).splitOn '-' = root.toList :: pieces names := by
    rw [base_of_clean clean]
    refine List.splitOn_intercalate '-' ?_ (List.cons_ne_nil _ _)
    intro piece member
    rw [pieces, ← List.cons_append] at member
    rcases List.mem_append.mp member with member | member
    · exact (forall_mem_words clean piece member).2
    · obtain ⟨-, -, rfl⟩ := List.mem_map.mp member
      exact List.not_mem_nil
  rw [← pieces_eq_iff clean clean']
  constructor
  · intro same
    have cuts := cut clean
    rw [same, cut clean'] at cuts
    exact (List.cons.inj cuts).2.symm
  · intro same
    rw [base_of_clean clean, base_of_clean clean', same]

/-- Behind the last dash but one at the very end stands the last name. -/
theorem base_concat {front : List String} {last : String}
    (clean : ∀ name ∈ front ++ [last], isClean name = true) :
    base (front ++ [last]) =
      (stem front ++ '-' :: word last) ++ (lineFeed last).map fun _ => '-' := by
  have cleanFront : ∀ name ∈ front, isClean name = true :=
    fun name member => clean name (List.mem_append_left _ member)
  have feed : lastFeed (front ++ [last]) = lineFeed last := by simp [lastFeed]
  have joined : ['-'].intercalate (root.toList :: (front ++ [last]).map word) =
      stem front ++ '-' :: word last := by
    rw [List.map_append, List.map_singleton, ← List.cons_append,
      Text.intercalate_concat (List.cons_ne_nil _ _), stem_of_clean cleanFront]
    rfl
  rw [base_of_clean clean, pieces, feed]
  rcases lineFeed_eq last with bare | fed
  · rw [bare, List.map_nil, List.map_nil, List.append_nil, List.append_nil, joined]
  · rw [fed, List.map_singleton, List.map_singleton, ← List.cons_append,
      Text.intercalate_concat (List.cons_ne_nil _ _), joined, List.append_nil]

/-- A path of plain names has the id of a path with other names exactly if its last name is spelled
like the digest of that. -/
theorem folder_eq_iff_endsInDigest (clean : ∀ name ∈ p, isClean name = true)
    (unclean : ¬ ∀ name ∈ q, isClean name = true) :
    folder p = folder q ↔ EndsInDigest p q := by
  have free := dash_notMem_digest q
  have long : (digest q).toList ≠ [] := by
    intro empty
    have length := Md5.length_short (show 6 ≤ 32 by decide) ("/".intercalate q)
    rw [← digest, empty] at length
    cases length
  rw [← String.toList_inj, folder_of_clean clean, folder_of_not_clean unclean]
  unfold EndsInDigest
  rcases List.eq_nil_or_concat p with rfl | ⟨front, last, rfl⟩
  · simp only [List.getLast?_nil, reduceCtorEq, false_and, and_false, iff_false]
    intro same
    have dash : '-' ∈ base [] := by simp [same]
    exact absurd dash (by decide +kernel)
  rw [List.concat_eq_append] at clean ⊢
  rw [base_concat clean, List.getLast?_concat, List.dropLast_concat, Option.some.injEq]
  rcases lineFeed_eq last with bare | fed
  · have whole : word last = last.toList := by
      rw [← word_append_lineFeed, bare, List.append_nil]
    rw [bare, List.map_nil, List.append_nil, whole,
      Text.append_cons_inj (whole ▸ dash_notMem_word (clean last (by simp))) free,
      String.toList_inj]
    exact ⟨fun ⟨stems, lasts⟩ => ⟨⟨clean, unclean⟩, lasts, stems⟩,
      fun ⟨_, lasts, stems⟩ => ⟨stems, lasts⟩⟩
  · rw [fed, List.map_singleton, Text.append_cons_inj List.not_mem_nil free]
    constructor
    · rintro ⟨-, empty⟩
      exact absurd empty.symm long
    · rintro ⟨-, rfl, -⟩
      have member : '\n' ∈ (digest q).toList := by
        rw [← word_append_lineFeed, fed]
        exact List.mem_append_right _ List.mem_cons_self
      exact absurd (Md5.isAlphanum_of_mem_short member) (by decide)

/-- If the digest keeps two paths apart, they have the same id only if they clash. -/
theorem folder_eq_iff (named : ∀ name ∈ p, IsName name) (named' : ∀ name ∈ q, IsName name)
    (digests : digest p = digest q → "/".intercalate p = "/".intercalate q) :
    folder p = folder q ↔ p = q ∨ Clash p q := by
  by_cases clean : ∀ name ∈ p, isClean name = true <;>
    by_cases clean' : ∀ name ∈ q, isClean name = true
  · have words : folder p = folder q ↔ SameWords p q := by
      rw [← String.toList_inj, folder_of_clean clean, folder_of_clean clean',
        base_eq_iff clean clean']
      exact (and_iff_right ⟨clean, clean'⟩).symm
    rw [words]
    constructor
    · exact fun same => .inr (.inl same)
    · rintro (rfl | same | ends | ends)
      · exact ⟨⟨clean, clean⟩, rfl, rfl⟩
      · exact same
      · exact absurd clean' ends.1.2
      · exact absurd clean ends.1.2
  · rw [folder_eq_iff_endsInDigest clean clean']
    constructor
    · exact fun ends => .inr (.inr (.inl ends))
    · rintro (rfl | same | ends | ends)
      · exact absurd clean clean'
      · exact absurd same.1.2 clean'
      · exact ends
      · exact absurd ends.1.1 clean'
  · rw [eq_comm, folder_eq_iff_endsInDigest clean' clean]
    constructor
    · exact fun ends => .inr (.inr (.inr ends))
    · rintro (rfl | same | ends | ends)
      · exact absurd clean' clean
      · exact absurd same.1.1 clean
      · exact absurd ends.1.1 clean
      · exact ends
  · have nonempty {names : List String} (unclean : ¬ ∀ name ∈ names, isClean name = true) :
        names ≠ [] := by
      rintro rfl
      exact unclean fun _ member => absurd member List.not_mem_nil
    rw [← String.toList_inj, folder_of_not_clean clean, folder_of_not_clean clean',
      Text.append_cons_inj (dash_notMem_digest p) (dash_notMem_digest q), String.toList_inj]
    constructor
    · rintro ⟨-, same⟩
      exact .inl (eq_of_slashed_eq named named' (nonempty clean) (nonempty clean') (digests same))
    · rintro (rfl | same | ends | ends)
      · exact ⟨rfl, rfl⟩
      · exact absurd same.1.1 clean
      · exact absurd ends.1.1 clean
      · exact absurd ends.1.1 clean'

end Clashes

end SiteAtlas.NodeId
