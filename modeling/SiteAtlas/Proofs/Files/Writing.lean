import SiteAtlas.Proofs.Files.Descent

/-! # Written files

A text is written to the file that a path leads to, through links as well, or to a new file in a
folder that the first names lead to. Either way the path leads to that file afterwards, and its
bytes are those of the text.
-/

namespace SiteAtlas

namespace FileNode

variable {node new : FileNode} {name : String} {place rest names : List String}
  {entries : List (String × FileNode)}

theorem at?_put_self (node : FileNode) (names : List String) (new : FileNode) :
    (node.put names new).at? names = some new := by
  induction names generalizing node with
  | nil => rfl
  | cons name rest ih => rw [at?, entry?_put, if_pos rfl, Option.bind_some, ih]

/-- Nothing leads on from where nothing is. -/
theorem at?_append_eq_none (missing : node.at? place = none) : node.at? (place ++ rest) = none := by
  induction place generalizing node with
  | nil => cases missing
  | cons name others ih =>
    rw [List.cons_append, at?]
    cases entry : node.entry? name with
    | none => rfl
    | some inner =>
      rw [at?, entry] at missing
      exact ih missing

/-- A node that is put where nothing was leaves all that was there, but for the entries of the
folders on the way. -/
theorem at?_put_new (here : node.at? place = some (folder entries))
    (missing : node.at? (place ++ [name]) = none) {found : FileNode}
    (was : node.at? names = some found) :
    ∃ found', (node.put (place ++ name :: rest) new).at? names = some found' ∧
      found.shape = found'.shape := by
  induction place generalizing node names with
  | nil =>
    obtain rfl : node = folder entries := Option.some.inj here
    cases names with
    | nil =>
      obtain rfl : folder entries = found := Option.some.inj was
      exact ⟨_, rfl, rfl⟩
    | cons other names =>
      have differ : name ≠ other := by
        rintro rfl
        have none : (folder entries).at? ([name] ++ names) = none := at?_append_eq_none missing
        cases none.symm.trans was
      rw [List.nil_append, at?, entry?_put, if_neg differ]
      exact ⟨found, was, rfl⟩
  | cons first others ih =>
    obtain ⟨inner, entry, below⟩ := Option.bind_eq_some_iff.mp here
    cases names with
    | nil =>
      obtain rfl : node = found := Option.some.inj was
      cases node with
      | folder all => exact ⟨_, rfl, rfl⟩
      | file content => cases entry
      | link target => cases entry
    | cons other names =>
      rw [List.cons_append, at?, entry?_put]
      by_cases same : first = other
      · subst same
        rw [List.cons_append, at?, entry, Option.bind_some] at missing
        rw [at?, entry, Option.bind_some] at was
        rw [if_pos rfl, Option.bind_some, entry, Option.getD_some]
        exact ih below missing was
      · rw [if_neg same]
        exact ⟨found, was, rfl⟩

end FileNode

namespace FileSystem

open FileNode

variable {fs : FileSystem} {p : Path} {place rest names : List String} {name : String}
  {entries : List (String × FileNode)}

theorem isPartOf_put (here : fs.node? place = some (folder entries))
    (missing : fs.node? (place ++ [name]) = none) (new : FileNode) :
    fs.IsPartOf (fs.put ⟨1, place ++ name :: rest⟩ new) :=
  fun _ _ found => at?_put_new here missing found

section Vacant

variable {follow : List String → List String → Except FileError (List String)} {done : List String}
  (missing : fs.node? (done.reverse ++ [name]) = none)
include missing

/-- Names from a place on where nothing is are kept as they are, if nothing has to be there. -/
theorem scan_false_of_vacant (noUp : ".." ∉ name :: rest) :
    scan fs false follow done (name :: rest) = .ok ((name :: rest).reverse ++ done) := by
  induction rest generalizing name done with
  | nil =>
    rw [scan, List.reverse_cons, missing]
    · rfl
    · exact (List.ne_of_not_mem_cons noUp).symm
  | cons next rest ih =>
    have further : fs.node? ((name :: done).reverse ++ [next]) = none := by
      rw [List.reverse_cons]
      exact at?_append_eq_none missing
    have onward := ih further (List.not_mem_of_not_mem_cons noUp)
    rw [scan, List.reverse_cons, missing]
    · rw [List.reverse_cons, List.append_assoc]
      exact onward
    · exact (List.ne_of_not_mem_cons noUp).symm

theorem scan_true_of_vacant (other : name ≠ "..") :
    scan fs true follow done (name :: rest) = .error (absence name) := by
  rw [scan, List.reverse_cons, missing]
  · rfl
  · exact other

end Vacant

/-! ## Files that can be written -/

/-- Whether nothing is at a path, but there is a folder that a file or a row of folders with a file
can be added to. -/
def IsNew (fs : FileSystem) (p : Path) : Prop :=
  ∃ upper name rest place entries, p.parts = upper ++ name :: rest ∧ ".." ∉ name :: rest ∧
    fs.locate ⟨p.slashes, upper⟩ = .ok place ∧ fs.node? place = some (folder entries) ∧
    fs.node? (place ++ [name]) = none

/-- Whether a path leads to a file or to the place of a new one. -/
def Takes (fs : FileSystem) (p : Path) : Prop :=
  (∃ content, fs.content p = .ok content) ∨ fs.IsNew p

theorem lookup_eq_ok_iff {node : FileNode} : fs.lookup p = .ok node ↔
    ∃ place, fs.locate p = .ok place ∧ fs.node? place = some node := by
  rw [lookup, bind_eq_ok_iff]
  refine exists_congr fun place => and_congr_right fun _ => ?_
  cases fs.node? place with
  | none => simp
  | some inner => simp [pure, Except.pure]

theorem content_eq_ok_iff {bytes : ByteArray} : fs.content p = .ok bytes ↔
    ∃ place, fs.locate p = .ok place ∧ fs.node? place = some (.file bytes) := by
  rw [← lookup_eq_ok_iff, content, bind_eq_ok_iff]
  constructor
  · rintro ⟨node, found, read⟩
    cases node with
    | file content =>
      obtain rfl : content = bytes := Except.ok.inj read
      exact found
    | folder entries => cases read
    | link target => cases read
  · intro found
    exact ⟨_, found, rfl⟩

/-- A file that is there is written in its place. -/
theorem content_write_of_content {content : ByteArray} (read : fs.content p = .ok content)
    (text : String) : (fs.write p text).content p = .ok text.toUTF8 := by
  obtain ⟨place, located, found⟩ := content_eq_ok_iff.mp read
  obtain ⟨done, walked, rfl⟩ := locate_eq_ok_iff.mp located
  have lenient : walk fs false linkLimit [] p.parts = .ok done :=
    walk_of_isPartOf (.refl fs) walked
  have same := sameBut_put found text.toUTF8
  rw [write, lenient]
  refine content_eq_ok_iff.mpr ⟨done.reverse, ?_, at?_put_self fs.root _ _⟩
  rw [← locate_congr same.shape, located]

/-- A new file is found by the names that it was made under. -/
theorem IsNew.content_write (new : fs.IsNew p) (text : String) :
    (fs.write p text).content p = .ok text.toUTF8 := by
  obtain ⟨upper, name, rest, place, entries, parts, noUp, located, here, missing⟩ := new
  obtain ⟨done, walked, rfl⟩ := locate_eq_ok_iff.mp located
  have lenient : walk fs false linkLimit [] p.parts = .ok ((name :: rest).reverse ++ done) := by
    rw [parts]
    exact walk_append (.refl fs) (.inr ⟨entries, here⟩)
      (fun _ => scan_false_of_vacant missing noUp) walked
  have written : fs.write p text =
      fs.put ⟨1, done.reverse ++ name :: rest⟩ (.file text.toUTF8) := by
    rw [write, lenient]
    dsimp only
    rw [List.reverse_append, List.reverse_reverse]
  have part : fs.IsPartOf (fs.put ⟨1, done.reverse ++ name :: rest⟩ (.file text.toUTF8)) :=
    isPartOf_put here missing _
  have there : (fs.put ⟨1, done.reverse ++ name :: rest⟩ (.file text.toUTF8)).node?
      (done.reverse ++ name :: rest) = some (.file text.toUTF8) :=
    at?_put_self fs.root _ _
  rw [written]
  generalize fs.put ⟨1, done.reverse ++ name :: rest⟩ (.file text.toUTF8) = fs' at part there ⊢
  obtain ⟨entries', here'⟩ := part.folder here
  have below : (folder entries').at? (name :: rest) = some (.file text.toUTF8) := by
    rw [← there, node?, at?_append here']
  have strict : walk fs' true linkLimit [] p.parts = .ok ((name :: rest).reverse ++ done) := by
    rw [parts]
    exact walk_append part (.inr ⟨entries, here⟩)
      (fun _ => scan_down here' below noUp fun _ => FileNode.noConfusion) walked
  refine content_eq_ok_iff.mpr ⟨_, locate_eq_ok_iff.mpr ⟨_, strict, ?_⟩, there⟩
  rw [List.reverse_append, List.reverse_reverse]

/-- What is written is read. -/
theorem Takes.content_write (takes : fs.Takes p) (text : String) :
    (fs.write p text).content p = .ok text.toUTF8 := by
  rcases takes with ⟨content, read⟩ | new
  · exact content_write_of_content read text
  · exact new.content_write text

theorem Takes.write (takes : fs.Takes p) (text : String) : (fs.write p text).Takes p :=
  .inl ⟨_, takes.content_write text⟩

theorem Takes.hasFolder_eq_false (takes : fs.Takes p) : fs.hasFolder p = false := by
  rcases takes with ⟨content, read⟩ | new
  · obtain ⟨place, located, found⟩ := content_eq_ok_iff.mp read
    rw [hasFolder, lookup_eq_ok_iff.mpr ⟨place, located, found⟩]
    rfl
  · obtain ⟨upper, name, rest, place, entries, parts, noUp, located, here, missing⟩ := new
    obtain ⟨done, walked, rfl⟩ := locate_eq_ok_iff.mp located
    have strict : walk fs true linkLimit [] p.parts = .error (absence name) := by
      rw [parts]
      exact walk_append (.refl fs) (.inr ⟨entries, here⟩)
        (fun _ => scan_true_of_vacant missing (List.ne_of_not_mem_cons noUp).symm) walked
    rw [hasFolder, lookup, locate, strict]
    rfl

end FileSystem

end SiteAtlas
