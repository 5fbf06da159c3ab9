import SiteAtlas.Proofs.Project.WalkedTree
import SiteAtlas.Proofs.Routing.RoutePath

/-! # Routes along a path

What a path says of a folder's URL is what it says of the parent's URL and one step more, as long as
the parent's path does not end in a slash and the router root has a name. Whatever the names are, a
URL below the router root begins with that of each folder above it.
-/

namespace SiteAtlas.Routing

/-! ## One name more in a path -/

/-- The characters of a path, with each backslash turned round. -/
def slashed (path : String) : List Char := path.toList.map fun c => if c = '\\' then '/' else c

/-- The segments of a path are those of its parts at a slash. -/
theorem segments_of_toList {path : String} {before behind : List Char}
    (whole : path.toList = before ++ '/' :: behind) :
    segments path = segments (String.ofList before) ++ segments (String.ofList behind) := by
  rw [segments, segments, segments, whole, String.toList_ofList, String.toList_ofList,
    List.splitOn_append_cons_self, List.map_append]

/-- Further slashes make for empty segments. -/
theorem segments_slashes (count : Nat) {name : String} (free : '/' ∉ name.toList) :
    segments (String.ofList (List.replicate count '/' ++ name.toList)) =
      List.replicate count "" ++ [name] := by
  induction count with
  | zero => simp [segments, List.splitOn_eq_singleton free]
  | succ count ih =>
    have whole : (String.ofList (List.replicate (count + 1) '/' ++ name.toList)).toList =
        [] ++ '/' :: (List.replicate count '/' ++ name.toList) := by
      rw [String.toList_ofList, List.replicate_succ, List.cons_append, List.nil_append]
    rw [segments_of_toList whole, ih]
    rfl

theorem slashed_append (path name : String) :
    slashed (path ++ "/" ++ name) = slashed path ++ '/' :: slashed name := by
  simp [slashed]

section Tidy

variable {routerRoot path name : String}

theorem slashed_of_isFolderName (proper : IsFolderName name) : slashed name = name.toList := by
  refine (List.map_congr_left fun c member => if_neg ?_).trans (List.map_id' _)
  rintro rfl
  exact proper.2.2 member

theorem toList_tidyPath (path : String) :
    (tidyPath path).toList = Text.stripChar '/' (slashed path) := String.toList_ofList

/-- A path is its tidy form with slashes in front and behind. -/
theorem exists_slashed (path : String) : ∃ front back,
    slashed path = List.replicate front '/' ++ ((tidyPath path).toList ++ List.replicate back '/') ∧
      (tidyPath path).toList.head? ≠ some '/' ∧ (tidyPath path).toList.getLast? ≠ some '/' := by
  rw [toList_tidyPath]
  exact Text.exists_padded '/' (slashed path)

/-- Whether a path ends in a slash, whichever way it leans. -/
def endsInSlash (path : String) : Bool := (slashed path).getLast? == some '/'

/-- Nothing is left of a path that is made of slashes of both kinds only. -/
theorem tidyPath_eq_empty_iff {path : String} :
    tidyPath path = "" ↔ ∀ c ∈ path.toList, c = '/' ∨ c = '\\' := by
  have turned : (∀ c ∈ slashed path, c = '/') ↔ ∀ c ∈ path.toList, c = '/' ∨ c = '\\' := by
    simp only [slashed, List.forall_mem_map]
    refine forall₂_congr fun c _ => ?_
    by_cases backslash : c = '\\' <;> simp [backslash]
  rw [← turned]
  obtain ⟨front, back, whole, first, -⟩ := exists_slashed path
  constructor
  · intro empty c member
    rw [whole, empty] at member
    rcases List.mem_append.mp member with front | member
    · exact List.eq_of_mem_replicate front
    · exact List.eq_of_mem_replicate (by simpa using member)
  · intro slashes
    by_contra filled
    obtain ⟨c, rest, parts⟩ := List.exists_cons_of_ne_nil (mt String.toList_eq_nil_iff.mp filled)
    have isSlash : c = '/' := slashes c (by simp [whole, parts])
    exact first (by rw [parts, isSlash]; rfl)

/-- A tidy path is tidy already. -/
theorem tidyPath_tidyPath (path : String) : tidyPath (tidyPath path) = tidyPath path := by
  obtain ⟨front, back, whole, first, last⟩ := exists_slashed path
  have straight : '\\' ∉ (tidyPath path).toList := by
    intro member
    have inside : '\\' ∈ slashed path := by
      rw [whole]
      exact List.mem_append_right _ (List.mem_append_left _ member)
    obtain ⟨c, -, turned⟩ := List.mem_map.mp inside
    split at turned
    · cases turned
    next other => exact other turned
  have same : slashed (tidyPath path) = (tidyPath path).toList := by
    refine (List.map_congr_left fun c member => if_neg ?_).trans (List.map_id' _)
    rintro rfl
    exact straight member
  rw [← String.toList_inj, toList_tidyPath (tidyPath path), same]
  exact Text.stripChar_eq_self first last

/-- A name behind a path: the path's own slashes at its end come before it. -/
theorem exists_tidyPath_append (filled : tidyPath path ≠ "") : ∃ back,
    (back = 0 ↔ endsInSlash path = false) ∧ ∀ name,
      (tidyPath (path ++ "/" ++ name)).toList = (tidyPath path).toList ++
        ('/' :: (List.replicate back '/' ++ slashed name)).rdropWhile (· == '/') := by
  obtain ⟨front, back, whole, first, last⟩ := exists_slashed path
  have nonempty : (tidyPath path).toList ≠ [] := mt String.toList_eq_nil_iff.mp filled
  refine ⟨back, ?_, fun name => ?_⟩
  · rw [endsInSlash, whole]
    cases back with
    | zero =>
      simp only [List.replicate_zero, List.append_nil]
      rw [List.getLast?_append_of_ne_nil _ nonempty]
      simpa using last
    | succ back => simp [List.replicate_succ']
  · have slashes : List.replicate back '/' ++ '/' :: slashed name =
        '/' :: (List.replicate back '/' ++ slashed name) := by
      rw [List.append_cons, ← List.replicate_succ', List.replicate_succ, List.cons_append]
    rw [toList_tidyPath (path ++ "/" ++ name), slashed_append, whole, List.append_assoc,
      List.append_assoc, slashes]
    exact Text.stripChar_padded nonempty first last front _

/-- Whatever is put behind a path, nothing of it is left or something behind a slash. -/
theorem tidyPath_append_cases (filled : tidyPath path ≠ "") (name : String) :
    tidyPath (path ++ "/" ++ name) = tidyPath path ∨
      ∃ rest, (tidyPath (path ++ "/" ++ name)).toList = (tidyPath path).toList ++ '/' :: rest := by
  obtain ⟨back, -, append⟩ := exists_tidyPath_append filled
  have whole := append name
  have front := List.rdropWhile_prefix (· == '/') ('/' :: (List.replicate back '/' ++ slashed name))
  cases left : ('/' :: (List.replicate back '/' ++ slashed name)).rdropWhile (· == '/') with
  | nil =>
    rw [left, List.append_nil, String.toList_inj] at whole
    exact .inl whole
  | cons c rest =>
    rw [left] at whole front
    obtain ⟨rfl, -⟩ := List.cons_prefix_cons.mp front
    exact .inr ⟨rest, whole⟩

/-- A name behind a path adds segments to it. -/
theorem exists_segments_append (filled : tidyPath path ≠ "") (name : String) :
    ∃ more, segments (tidyPath (path ++ "/" ++ name)) = segments (tidyPath path) ++ more := by
  rcases tidyPath_append_cases filled name with same | ⟨rest, longer⟩
  · exact ⟨[], by rw [same, List.append_nil]⟩
  · rw [segments_of_toList longer, String.ofList_toList]
    exact ⟨_, rfl⟩

/-- A folder's name adds one segment to a path, and an empty one for each slash at its end. -/
theorem segments_tidyPath_append (filled : tidyPath path ≠ "") : ∃ back,
    (back = 0 ↔ endsInSlash path = false) ∧ ∀ name, IsFolderName name →
      segments (tidyPath (path ++ "/" ++ name)) =
        segments (tidyPath path) ++ (List.replicate back "" ++ [name]) := by
  obtain ⟨back, count, append⟩ := exists_tidyPath_append filled
  refine ⟨back, count, fun name proper => ?_⟩
  have whole := append name
  have nonempty : name.toList ≠ [] := mt String.toList_eq_nil_iff.mp proper.1
  have keeps : ('/' :: (List.replicate back '/' ++ name.toList)).rdropWhile (· == '/') =
      '/' :: (List.replicate back '/' ++ name.toList) := by
    refine List.rdropWhile_eq_self_iff.mpr fun filled isSlash => proper.2.1 ?_
    have last : ('/' :: (List.replicate back '/' ++ name.toList)).getLast filled =
        name.toList.getLast nonempty := by
      rw [List.getLast_cons (by simp [nonempty]), List.getLast_append_of_ne_nil _ nonempty]
    rw [last, beq_iff_eq] at isSlash
    exact isSlash ▸ List.getLast_mem nonempty
  rw [slashed_of_isFolderName proper, keeps] at whole
  rw [segments_of_toList whole, String.ofList_toList, segments_slashes back proper.2.1]

end Tidy

/-! ## Scope -/

section Scope

variable {routerRoot path path' base : String}

theorem isInScope_iff : isInScope routerRoot path = true ↔ tidyPath path = routerRoot ∨
    ∃ rest, (tidyPath path).toList = routerRoot.toList ++ '/' :: rest := by
  rw [isInScope, Bool.or_eq_true, beq_iff_eq, String.toList_inj, List.isPrefixOf_iff_prefix]
  refine or_congr_right (exists_congr fun rest => ?_)
  rw [List.append_assoc, List.singleton_append, eq_comm]

theorem isInScope_tidyPath : isInScope routerRoot (tidyPath path) = isInScope routerRoot path := by
  rw [isInScope, isInScope, tidyPath_tidyPath]

theorem tidyPath_ne_empty (inScope : isInScope routerRoot path = true) (named : routerRoot ≠ "") :
    tidyPath path ≠ "" := by
  rcases isInScope_iff.mp inScope with same | ⟨rest, whole⟩
  · rwa [same]
  · intro empty
    rw [empty] at whole
    exact absurd whole.symm (by simp)

/-- Slashes in front of a folder's name do not count. -/
theorem tidyPath_append_of_empty {name : String} (empty : tidyPath path = "")
    (proper : IsFolderName name) : tidyPath (path ++ "/" ++ name) = name := by
  obtain ⟨front, back, whole, -, -⟩ := exists_slashed path
  have padded : slashed (path ++ "/" ++ name) =
      List.replicate (front + back + 1) '/' ++ (name.toList ++ []) := by
    rw [slashed_append, whole, empty, slashed_of_isFolderName proper, List.replicate_succ',
      List.replicate_add]
    simp
  have nonempty : name.toList ≠ [] := mt String.toList_eq_nil_iff.mp proper.1
  have first : name.toList.head? ≠ some '/' := fun slash => proper.2.1 (List.mem_of_mem_head? slash)
  have last : name.toList.getLast? ≠ some '/' :=
    fun slash => proper.2.1 (List.mem_of_getLast? slash)
  rw [← String.toList_inj, toList_tidyPath, padded, Text.stripChar_padded nonempty first last,
    List.rdropWhile_nil, List.append_nil]

/-- A path in scope stays in scope when a name is put behind it, if the router root has a name. -/
theorem isInScope_append (inScope : isInScope routerRoot path = true) (named : routerRoot ≠ "")
    (name : String) : isInScope routerRoot (path ++ "/" ++ name) = true := by
  rw [isInScope_iff]
  rcases tidyPath_append_cases (tidyPath_ne_empty inScope named) name with same | ⟨more, longer⟩
  · rw [same]
    exact isInScope_iff.mp inScope
  · rcases isInScope_iff.mp inScope with here | ⟨rest, below⟩
    · exact .inr ⟨more, by rw [longer, here]⟩
    · exact .inr ⟨rest ++ '/' :: more, by rw [longer, below, List.append_assoc, List.cons_append]⟩

/-- Only a path of slashes is in scope of a router root without a name. -/
theorem isInScope_empty : isInScope "" path = true ↔ tidyPath path = "" := by
  rw [isInScope_iff]
  refine or_iff_left ?_
  rintro ⟨rest, whole⟩
  obtain ⟨front, back, -, first, -⟩ := exists_slashed path
  exact first (by rw [whole]; rfl)

theorem length_segments (path : String) : (segments path).length = path.toList.count '/' + 1 := by
  rw [segments, List.length_map]
  induction path.toList with
  | nil => rfl
  | cons c rest ih =>
    rw [List.splitOn_cons_eq_if_modifyHead, List.count_cons]
    split
    · rw [List.length_cons, ih]
    · rw [List.length_modifyHead, ih]

/-- How many segments come before the last one of the router root. -/
def depth (routerRoot : String) : Nat :=
  (segments (String.ofList (Text.stripChar '/' routerRoot.toList))).length - 1

theorem depth_le (inScope : isInScope routerRoot path = true) :
    depth routerRoot ≤ (segments (tidyPath path)).length := by
  obtain ⟨front, back, whole, -, -⟩ := Text.exists_padded '/' routerRoot.toList
  have stripped := congrArg (List.count '/') whole
  rw [List.count_append, List.count_append] at stripped
  have inside : routerRoot.toList.count '/' ≤ (tidyPath path).toList.count '/' := by
    rcases isInScope_iff.mp inScope with same | ⟨rest, below⟩
    · rw [same]
    · rw [below, List.count_append]
      exact Nat.le_add_right _ _
  rw [depth, length_segments, length_segments, String.toList_ofList]
  omega

theorem routePath?_eq (inScope : isInScope routerRoot path = true) : routePath? routerRoot path =
    some (((segments (tidyPath path)).drop (depth routerRoot)).foldl
      (extendRoute (rootName routerRoot)) "") := by
  rw [routePath?]
  exact if_pos (isInScope_tidyPath.trans inScope)

/-- Further segments carry on from the URL of a path. -/
theorem routePath?_of_segments {more : List String} (inScope : isInScope routerRoot path = true)
    (inScope' : isInScope routerRoot path' = true)
    (longer : segments (tidyPath path') = segments (tidyPath path) ++ more)
    (route : routePath? routerRoot path = some base) :
    routePath? routerRoot path' = some (more.foldl (extendRoute (rootName routerRoot)) base) := by
  rw [routePath?_eq inScope, Option.some.injEq] at route
  rw [routePath?_eq inScope', longer, List.drop_append_of_le_length (depth_le inScope),
    List.foldl_append, route]

end Scope

/-! ## What one name more adds -/

section Steps

variable {routerRoot base : String}

/-- One folder adds nothing or a slash and its name. -/
theorem extendRoute_cases (routerRoot base name : String) :
    extendRoute routerRoot base name = base ∨
      extendRoute routerRoot base name = base ++ "/" ++ name := by
  cases traced : (Segment.ofName name).isTransparent with
  | true => exact .inl (extendRoute_of_isTransparent routerRoot base traced)
  | false =>
    rw [extendRoute_of_traced routerRoot base traced]
    split
    next passes => exact .inl passes.2.2.symm
    next => exact .inr rfl

/-- The URL of a path begins with that of what it carries on from. -/
theorem exists_foldl_extendRoute (routerRoot : String) (names : List String) (base : String) :
    ∃ rest, names.foldl (extendRoute routerRoot) base = base ++ rest := by
  induction names generalizing base with
  | nil => exact ⟨"", String.append_empty.symm⟩
  | cons name more ih =>
    obtain ⟨rest, whole⟩ := ih (extendRoute routerRoot base name)
    rw [List.foldl_cons, whole]
    rcases extendRoute_cases routerRoot base name with same | longer
    · exact ⟨rest, by rw [same]⟩
    · exact ⟨"/" ++ name ++ rest, by rw [longer, String.append_assoc, String.append_assoc,
        String.append_assoc]⟩

/-- A URL is empty or begins with a slash. -/
theorem foldl_extendRoute_empty_or_slash (routerRoot : String) (names : List String) :
    names.foldl (extendRoute routerRoot) "" = "" ∨
      ∃ rest, names.foldl (extendRoute routerRoot) "" = "/" ++ rest := by
  have step (base name : String) (started : base = "" ∨ ∃ rest, base = "/" ++ rest) :
      extendRoute routerRoot base name = "" ∨
        ∃ rest, extendRoute routerRoot base name = "/" ++ rest := by
    rcases extendRoute_cases routerRoot base name with same | longer
    · rwa [same]
    · right
      rcases started with rfl | ⟨rest, rfl⟩
      · exact ⟨name, by rw [longer, String.empty_append]⟩
      · exact ⟨rest ++ "/" ++ name, by rw [longer, String.append_assoc, String.append_assoc,
          String.append_assoc]⟩
  suffices run : ∀ base, (base = "" ∨ ∃ rest, base = "/" ++ rest) →
      names.foldl (extendRoute routerRoot) base = "" ∨
        ∃ rest, names.foldl (extendRoute routerRoot) base = "/" ++ rest from run "" (.inl rfl)
  induction names with
  | nil => exact fun base started => started
  | cons name more ih => exact fun base started => ih _ (step base name started)

/-- The URL of a path in scope is shown with a slash in front. -/
theorem exists_displayRoute {routerRoot path : String}
    (inScope : isInScope routerRoot path = true) :
    ∃ rest, (routePath? routerRoot path).map displayRoute = some ("/" ++ rest) := by
  rw [routePath?_eq inScope, Option.map_some, displayRoute]
  rcases foldl_extendRoute_empty_or_slash (rootName routerRoot)
    ((segments (tidyPath path)).drop (depth routerRoot)) with empty | ⟨rest, whole⟩
  · exact ⟨"", by rw [if_pos empty, String.append_empty]⟩
  · have filled : "/" ++ rest ≠ "" := by
      rw [← String.toList_inj.ne, String.toList_append]
      exact List.cons_ne_nil _ _
    exact ⟨rest, by rw [whole, if_neg filled]⟩

theorem extendRoute_emptyName (routerRoot base : String) : extendRoute routerRoot base "" =
    if base = "" ∧ routerRoot = "" then "" else base ++ "/" := by
  rw [extendRoute_of_traced routerRoot base (by decide), String.append_empty]
  refine if_congr ⟨fun passes => ⟨passes.2.2, passes.2.1.symm⟩, fun both => ?_⟩ rfl rfl
  exact ⟨by decide, both.2.symm, both.1⟩

/-- Empty names add a slash each, unless the router root's last name is empty and the URL, too. -/
theorem foldl_extendRoute_replicate (routerRoot base : String) (count : Nat) :
    (List.replicate count "").foldl (extendRoute routerRoot) base =
      if base = "" ∧ routerRoot = "" then ""
      else base ++ String.ofList (List.replicate count '/') := by
  induction count generalizing base with
  | zero =>
    split
    next both => exact both.1
    next => simp
  | succ count ih =>
    rw [List.replicate_succ, List.foldl_cons, extendRoute_emptyName, ih]
    by_cases both : base = "" ∧ routerRoot = ""
    · rw [if_pos both, if_pos both, if_pos ⟨rfl, both.2⟩]
    · rw [if_neg both, if_neg both, if_neg (by simp [String.append_eq_empty_iff]),
        ← String.toList_inj]
      simp [List.replicate_succ]

/-- Empty names in front of a folder's are seen in its URL, except where they add nothing. -/
theorem extendRoute_replicate_eq_iff (routerRoot base name : String) (count : Nat) :
    extendRoute routerRoot ((List.replicate count "").foldl (extendRoute routerRoot) base) name =
        extendRoute routerRoot base name ↔ count = 0 ∨ base = "" ∧ routerRoot = "" := by
  rw [foldl_extendRoute_replicate]
  by_cases both : base = "" ∧ routerRoot = ""
  · rw [if_pos both, both.1]
    exact iff_of_true rfl (.inr ⟨rfl, both.2⟩)
  · rw [if_neg both, or_iff_left both]
    constructor
    · intro same
      by_contra some
      have longer : (base ++ String.ofList (List.replicate count '/')).length =
          base.length + count := by
        simp
      have started : base ++ String.ofList (List.replicate count '/') ≠ "" := by
        intro empty
        rw [empty] at longer
        have none : "".length = 0 := rfl
        omega
      have lengths := congrArg String.length same
      cases traced : (Segment.ofName name).isTransparent with
      | true =>
        rw [extendRoute_of_isTransparent routerRoot _ traced,
          extendRoute_of_isTransparent routerRoot _ traced] at lengths
        omega
      | false =>
        rw [extendRoute_of_traced routerRoot _ traced, if_neg (fun passes => started passes.2.2),
          String.length_append, String.length_append, longer] at lengths
        rcases extendRoute_cases routerRoot base name with short | long
        · rw [short] at lengths
          omega
        · rw [long, String.length_append, String.length_append] at lengths
          omega
    · rintro rfl
      simp

/-- The URL of a folder in scope, and what it has to do with that of a folder directly in it. -/
theorem routePath?_append {path name : String} (inScope : isInScope routerRoot path = true)
    (proper : IsFolderName name) (route : routePath? routerRoot path = some base) :
    routePath? routerRoot (path ++ "/" ++ name) =
        some (extendRoute (rootName routerRoot) base name) ↔
      routerRoot ≠ "" ∧ (endsInSlash path = false ∨ base = "" ∧ rootName routerRoot = "") := by
  by_cases named : routerRoot = ""
  · subst named
    refine iff_of_false (fun grown => ?_) (fun both => both.1 rfl)
    have tidy := tidyPath_append_of_empty (isInScope_empty.mp inScope) proper
    have outside : isInScope "" (path ++ "/" ++ name) = false := by
      rw [← Bool.not_eq_true, isInScope_empty, tidy]
      exact proper.1
    rw [routePath?, isInScope_tidyPath, outside] at grown
    cases grown
  · obtain ⟨back, count, longer⟩ := segments_tidyPath_append (tidyPath_ne_empty inScope named)
    rw [routePath?_of_segments inScope (isInScope_append inScope named name) (longer name proper)
      route, List.foldl_append, List.foldl_cons, List.foldl_nil, Option.some.injEq,
      extendRoute_replicate_eq_iff, count]
    exact (and_iff_right named).symm

/-- Whatever is put behind a path in scope, its URL begins with that of the path. -/
theorem exists_routePath?_append {path : String} (inScope : isInScope routerRoot path = true)
    (named : routerRoot ≠ "") (route : routePath? routerRoot path = some base) (name : String) :
    ∃ rest, routePath? routerRoot (path ++ "/" ++ name) = some (base ++ rest) := by
  obtain ⟨more, longer⟩ := exists_segments_append (tidyPath_ne_empty inScope named) name
  obtain ⟨rest, whole⟩ := exists_foldl_extendRoute (rootName routerRoot) more base
  refine ⟨rest, ?_⟩
  rw [routePath?_of_segments inScope (isInScope_append inScope named name) longer route, whole]

end Steps

/-! ## Walked trees -/

section Walked

variable {w : Walk} {root : Path} {listing : FileNode} {outer inner : StructureNode}

/-- Whether a node in scope has only nodes in scope below it whose URLs carry on from its own. -/
def CarriesOn (routerRoot : String) (outer inner : StructureNode) : Prop :=
  ∀ base, isInScope routerRoot outer.entry.relativePath = true →
    routePath? routerRoot outer.entry.relativePath = some base →
    isInScope routerRoot inner.entry.relativePath = true ∧
      ∃ rest, routePath? routerRoot inner.entry.relativePath = some (base ++ rest)

/-- URLs carry on from each folder to its contents, and so to everything below it. -/
theorem carriesOn_of_mem (proper : listing.isProper = true) (named : w.routerRoot ≠ "")
    (member : outer ∈ StructureNode.nodesOf (w.build root listing).children)
    (below : inner ∈ StructureNode.nodesOf outer.children) :
    CarriesOn w.routerRoot outer inner := by
  refine StructureNode.rel_of_mem_below (CarriesOn w.routerRoot) ?_
    (fun node deeper child inside => ?_) below
  · intro first second third carries carries' base inScope route
    obtain ⟨inScope, rest, route⟩ := carries base inScope route
    obtain ⟨inScope, rest', route⟩ := carries' _ inScope route
    exact ⟨inScope, rest ++ rest', by rw [route, String.append_assoc]⟩
  · intro base inScope route
    have shows := Walk.shows_build w root proper
    rw [shows.below node (StructureNode.mem_nodesOf_trans member deeper) child inside]
    exact ⟨isInScope_append inScope named _, exists_routePath?_append inScope named route _⟩

/-- URLs along a path. A folder in scope has a URL, and what its own step adds to it is nothing or a
slash and its name. The path of a folder in it says just that, if the router root has a name and
there is no slash at the end of the outer path already that would count as a folder. In a walked
tree the URL of each folder in scope is the beginning of the URLs of all folders below it. -/
theorem routePath?_grows (routerRoot : String) :
    (∀ path name, isInScope routerRoot path = true → IsFolderName name →
      ∃ base, routePath? routerRoot path = some base ∧
        (extendRoute (rootName routerRoot) base name = base ∨
          extendRoute (rootName routerRoot) base name = base ++ "/" ++ name) ∧
        (routePath? routerRoot (path ++ "/" ++ name) =
            some (extendRoute (rootName routerRoot) base name) ↔
          routerRoot ≠ "" ∧ (endsInSlash path = false ∨ base = "" ∧ rootName routerRoot = ""))) ∧
    (routerRoot ≠ "" → ∀ (w : Walk) (root : Path) (listing : FileNode),
      w.routerRoot = routerRoot → listing.isProper = true →
      ∀ outer ∈ (w.build root listing).nodes, outer.isFolder = true → outer.entry.inScope = true →
      ∀ inner ∈ StructureNode.nodesOf outer.children, inner.isFolder = true →
        ∃ base rest, routePath? routerRoot outer.entry.relativePath = some base ∧
          routePath? routerRoot inner.entry.relativePath = some (base ++ rest) ∧
          outer.entry.route = some (displayRoute base) ∧
          inner.entry.route = some (displayRoute (base ++ rest))) := by
  constructor
  · intro path name inScope proper
    have route := routePath?_eq inScope
    exact ⟨_, route, extendRoute_cases _ _ name, routePath?_append inScope proper route⟩
  · rintro named w root listing rfl proper outer member isFolder inScope inner below isFolder'
    rw [StructureNode.nodes_eq_cons] at member
    rcases List.mem_cons.mp member with rfl | member
    · -- The root is never in scope.
      cases inScope
    · have inScopeHere := (Walk.inScope_of_mem proper member).symm.trans inScope
      have route := routePath?_eq inScopeHere
      have member' := StructureNode.mem_nodesOf_trans member
        (StructureNode.nodes_eq_cons outer ▸ List.mem_cons_of_mem _ below)
      obtain ⟨inScopeBelow, rest, route'⟩ :=
        carriesOn_of_mem proper named member below _ inScopeHere route
      refine ⟨_, rest, route, route', ?_, ?_⟩
      · rw [Walk.route_of_mem proper member isFolder inScope, route, Option.map_some]
      · have inScope' := (Walk.inScope_of_mem proper member').trans inScopeBelow
        rw [Walk.route_of_mem proper member' isFolder' inScope', route', Option.map_some]

example : routePath? "app" ("app/" ++ "/" ++ "blog") = some "//blog" := by decide

/-- A shop with a group of pages and a page in it. -/
def shopSite : FileNode :=
  .folder [("app", .folder [("(shop)", .folder [("[...slug]", .folder [])])])]

def shopWalk : Walk := { files := {}, routerRoot := "app", isIgnored := fun _ _ => false }

/-- A folder in the shop's tree. -/
private def shopFolder (names : List String) (children : List StructureNode) : StructureNode :=
  let entry := shopWalk.folderEntry ⟨1, "site" :: names⟩ (Walk.relativeOf names)
  .folder entry (if entry.inScope then some (.ofName entry.name) else none) children

private theorem build_shopSite : shopWalk.build ⟨1, ["site"]⟩ shopSite =
    shopFolder [] [shopFolder ["app"]
      [shopFolder ["app", "(shop)"] [shopFolder ["app", "(shop)", "[...slug]"] []]]] := by
  simp only [Walk.build, shopSite, FileNode.entries, Walk.children, Walk.node?, shopWalk,
    Walk.folderNode, Bool.false_eq_true, if_false, Option.toList_some, List.append_nil,
    List.mergeSort_singleton, List.mergeSort_nil]
  rfl

theorem routePath?_grows_in_shop :
    (isInScope "src/app" "src/app/(shop)" = true ∧ IsFolderName "[...slug]" ∧
      routePath? "src/app" "src/app/(shop)/[...slug]" = some "/[...slug]") ∧
    shopSite.isProper = true ∧
    ∃ outer ∈ (shopWalk.build ⟨1, ["site"]⟩ shopSite).nodes,
      outer.entry.relativePath = "app/(shop)" ∧
        ∃ inner ∈ StructureNode.nodesOf outer.children,
          inner.entry.relativePath = "app/(shop)/[...slug]" ∧
          ∃ base rest, outer.entry.route = some (displayRoute base) ∧
            inner.entry.route = some (displayRoute (base ++ rest)) := by
  have inScope : isInScope "src/app" "src/app/(shop)" = true := by decide
  have name : IsFolderName "[...slug]" := by decide
  have proper : shopSite.isProper = true := by decide +kernel
  obtain ⟨base, route, -, grown⟩ :=
    (routePath?_grows "src/app").1 "src/app/(shop)" "[...slug]" inScope name
  have own : routePath? "src/app" "src/app/(shop)" = some "" := by decide
  obtain rfl : base = "" := Option.some.inj (route.symm.trans own)
  refine ⟨⟨inScope, name, grown.mpr ⟨by decide, .inl (by decide)⟩⟩, proper, ?_⟩
  have outer : shopFolder ["app", "(shop)"] [shopFolder ["app", "(shop)", "[...slug]"] []] ∈
      (shopWalk.build ⟨1, ["site"]⟩ shopSite).nodes := by
    rw [build_shopSite]
    simp [shopFolder, StructureNode.nodes, StructureNode.nodesOf]
  have inner : shopFolder ["app", "(shop)", "[...slug]"] [] ∈ StructureNode.nodesOf
      [shopFolder ["app", "(shop)", "[...slug]"] []] := by
    simp [shopFolder, StructureNode.nodes, StructureNode.nodesOf]
  obtain ⟨base, rest, -, -, route, route'⟩ := (routePath?_grows "app").2 (by decide) shopWalk
    ⟨1, ["site"]⟩ shopSite rfl proper _ outer rfl (by decide +kernel) _ inner rfl
  exact ⟨_, outer, by decide +kernel, _, inner, by decide +kernel, base, rest, route, route'⟩

/-- A router root without a name has a URL, and what lies below it has none. -/
theorem routePath?_loses_nameless_root :
    isInScope "" "" = true ∧ IsFolderName "blog" ∧ routePath? "" "" = some "" ∧
      extendRoute (rootName "") "" "blog" = "/blog" ∧
      routePath? "" ("" ++ "/" ++ "blog") = none := by
  decide

end Walked

end SiteAtlas.Routing
