import SiteAtlas.Proofs.Text.Pieces
import SiteAtlas.Routing.RoutePath
import Mathlib.Data.List.Basic
import Mathlib.Tactic.SplitIfs

/-! # Routes of nested folders

A folder name that leaves a trace in the URL is written there as it is, whatever brackets it has. So
the URL of nested folders is that of their traces one after the other, but for one thing: as long as
the URL is empty, a folder named like the router root is taken for the router root itself.
-/

namespace SiteAtlas.Routing

/-! ## What one folder adds -/

theorem enclosed?_eq_some_iff {opening closing : Char} {name inner : List Char} :
    enclosed? opening closing name = some inner ↔ name = opening :: (inner ++ [closing]) := by
  cases name with
  | nil => simp only [enclosed?, reduceCtorEq]
  | cons first rest =>
    simp only [enclosed?, Option.ite_none_right_eq_some, Option.some.injEq, List.cons.injEq]
    constructor
    · rintro ⟨⟨rfl, last⟩, rfl⟩
      exact ⟨rfl, (List.dropLast_append_getLast? closing last).symm⟩
    · rintro ⟨rfl, rfl⟩
      exact ⟨⟨rfl, List.getLast?_concat⟩, List.dropLast_concat⟩

namespace Segment

/-- A parameter, whatever its kind, goes back between the brackets that it was taken from. -/
theorem written?_ofBrackets (name : String) (inner : List Char) :
    (ofBrackets inner).written? name = some (String.ofList ('[' :: (inner ++ [']']))) := by
  unfold ofBrackets
  split
  next rest found =>
    obtain rfl := Text.after?_eq_some_iff.mp found
    split_ifs with closed
    · have whole := List.dropLast_append_getLast? ']' closed
      rw [← whole, List.dropLast_concat]
      simp [written?, ← String.toList_inj]
    · simp [written?, ← String.toList_inj]
  next =>
    split
    next param found =>
      obtain rfl := Text.after?_eq_some_iff.mp found
      simp [written?, ← String.toList_inj]
    next => simp [written?, ← String.toList_inj]

/-- Without an intercept marker, a name leaves no trace, is in square brackets or is static. -/
theorem ofPlain_cases (chars : List Char) :
    (ofPlain chars).isTransparent = true ∨
      (∃ inner, chars = '[' :: (inner ++ [']']) ∧ ofPlain chars = ofBrackets inner) ∨
      ofPlain chars = static := by
  unfold ofPlain
  cases enclosed? '(' ')' chars with
  | some inner => exact .inl rfl
  | none =>
    dsimp only
    split_ifs with isPrivate
    · exact .inl rfl
    · cases brackets : enclosed? '[' ']' chars with
      | some inner => exact .inr (.inl ⟨inner, enclosed?_eq_some_iff.mp brackets, rfl⟩)
      | none =>
        match chars with
        | [] => exact .inr (.inr rfl)
        | c :: slot =>
          by_cases isSlot : c = '@'
          · subst isSlot
            exact .inl rfl
          · exact .inr (.inr (by simp [isSlot]))

/-- Intercept markers decide, or else the rules for all other names. -/
theorem ofName_cases (name : String) :
    (ofName name).isTransparent = true ∨ ofName name = ofPlain name.toList := by
  simp only [ofName]
  split
  · exact .inr rfl
  · cases singleLine? _ with
    | some target => exact .inl rfl
    | none => exact .inr rfl

theorem written?_of_isTransparent {segment : Segment} (name : String)
    (transparent : segment.isTransparent = true) : segment.written? name = none := by
  cases segment with
  | group | privateFolder | parallel | intercepting => rfl
  | static | dynamic | catchAll | optionalCatchAll => cases transparent

/-- A name that leaves a trace in the URL stands there as it is. -/
theorem written?_ofName {name : String} (traced : (ofName name).isTransparent = false) :
    (ofName name).written? name = some name := by
  have plain := (ofName_cases name).resolve_left (by rw [traced]; exact Bool.false_ne_true)
  rw [plain] at traced ⊢
  rcases ofPlain_cases name.toList with transparent | ⟨inner, whole, brackets⟩ | static
  · rw [transparent] at traced
    cases traced
  · rw [brackets, written?_ofBrackets, ← whole, String.ofList_toList]
  · rw [static]
    rfl

end Segment

theorem extendRoute_of_isTransparent {name : String} (routerRoot base : String)
    (transparent : (Segment.ofName name).isTransparent = true) :
    extendRoute routerRoot base name = base := by
  simp only [extendRoute, Segment.written?_of_isTransparent name transparent]

/-- A folder with a trace adds a slash and its name, unless it passes for the router root. -/
theorem extendRoute_of_traced {name : String} (routerRoot base : String)
    (traced : (Segment.ofName name).isTransparent = false) :
    extendRoute routerRoot base name =
      if Segment.ofName name = .static ∧ name = routerRoot ∧ base = "" then ""
      else base ++ "/" ++ name := by
  simp only [extendRoute, Segment.written?_ofName traced]

/-! ## What nested folders add -/

/-- What a folder leaves in the URLs below it: nothing, or a slash and its name. -/
def trace (name : String) : String :=
  if (Segment.ofName name).isTransparent then "" else "/" ++ name

/-- What folders leave in the URLs below them, from the outermost one on. -/
def traces (names : List String) : String := String.join (names.map trace)

/-- Whether a folder leaves an empty URL empty, be it because it is named like the router root. -/
def leavesEmpty (routerRoot name : String) : Bool :=
  (Segment.ofName name).isTransparent || name == routerRoot

@[simp] theorem traces_nil : traces [] = "" := String.join_nil

@[simp] theorem traces_cons (name : String) (rest : List String) :
    traces (name :: rest) = trace name ++ traces rest := String.join_cons

theorem traces_append (outer inner : List String) :
    traces (outer ++ inner) = traces outer ++ traces inner := by
  rw [traces, List.map_append, String.join_append]
  rfl

/-- What is dropped in front makes the URL no longer. -/
theorem length_traces_dropWhile_le (drop : String → Bool) (names : List String) :
    (traces (names.dropWhile drop)).length ≤ (traces names).length := by
  have whole := traces_append (names.takeWhile drop) (names.dropWhile drop)
  rw [List.takeWhile_append_dropWhile] at whole
  rw [whole, String.length_append]
  exact Nat.le_add_left _ _

/-- Below a URL that is not empty every folder adds its trace. -/
theorem foldl_extendRoute_of_ne_empty (routerRoot : String) {base : String} (started : base ≠ "")
    (names : List String) : names.foldl (extendRoute routerRoot) base = base ++ traces names := by
  induction names generalizing base with
  | nil => simp
  | cons name rest ih =>
    rw [List.foldl_cons, traces_cons, ← String.append_assoc]
    cases traced : (Segment.ofName name).isTransparent with
    | true =>
      rw [extendRoute_of_isTransparent routerRoot base traced, ih started]
      simp [trace, traced]
    | false =>
      rw [extendRoute_of_traced routerRoot base traced,
        if_neg (fun passes => started passes.2.2), ih]
      · simp [trace, traced, String.append_assoc]
      · simp [String.append_eq_empty_iff]

/-- From the empty URL on, folders add their traces once one of them does not leave it empty. -/
theorem foldl_extendRoute_empty {routerRoot : String} (static : Segment.ofName routerRoot = .static)
    (names : List String) : names.foldl (extendRoute routerRoot) "" =
      traces (names.dropWhile (leavesEmpty routerRoot)) := by
  induction names with
  | nil => simp
  | cons name rest ih =>
    rw [List.foldl_cons]
    cases traced : (Segment.ofName name).isTransparent with
    | true =>
      rw [extendRoute_of_isTransparent routerRoot "" traced, ih, List.dropWhile_cons_of_pos]
      simp [leavesEmpty, traced]
    | false =>
      rw [extendRoute_of_traced routerRoot "" traced]
      by_cases same : name = routerRoot
      · rw [if_pos ⟨same ▸ static, same, rfl⟩, ih, List.dropWhile_cons_of_pos]
        simp [leavesEmpty, same]
      · rw [if_neg (fun passes => same passes.2.1), foldl_extendRoute_of_ne_empty,
          List.dropWhile_cons_of_neg]
        · simp [trace, traced]
        · simp [leavesEmpty, traced, same]
        · simp [String.append_eq_empty_iff]

/-- Nothing is lost exactly when the first folder with a trace is not named like the router root. -/
theorem traces_dropWhile_eq_iff {routerRoot : String}
    (static : Segment.ofName routerRoot = .static) (names : List String) :
    traces (names.dropWhile (leavesEmpty routerRoot)) = traces names ↔
      names.find? (fun name => !(Segment.ofName name).isTransparent) ≠ some routerRoot := by
  induction names with
  | nil => simp
  | cons name rest ih =>
    cases traced : (Segment.ofName name).isTransparent with
    | true =>
      rw [List.dropWhile_cons_of_pos (by simp [leavesEmpty, traced]),
        List.find?_cons_of_neg (by simp [traced]), ← ih]
      simp [trace, traced]
    | false =>
      rw [List.find?_cons_of_pos (by simp [traced])]
      by_cases same : name = routerRoot
      · subst same
        rw [List.dropWhile_cons_of_pos (by simp [leavesEmpty])]
        -- The dropped name takes its slash along, so that the URL is shorter by that at least.
        have shorter := length_traces_dropWhile_le (leavesEmpty name) rest
        refine iff_of_false (fun equal => ?_) (fun differs => differs rfl)
        have slash : 0 < "/".length := by decide
        rw [equal, traces_cons, trace, traced] at shorter
        simp only [Bool.false_eq_true, ↓reduceIte, String.length_append] at shorter
        omega
      · rw [List.dropWhile_cons_of_neg (by simp [leavesEmpty, traced, same])]
        exact iff_of_true rfl (fun equal => same (Option.some.inj equal))

/-! ## Paths of nested folders -/

/-- A name that a folder can have: it is not empty and has no slash, whichever way it leans. -/
def IsFolderName (name : String) : Prop := name ≠ "" ∧ '/' ∉ name.toList ∧ '\\' ∉ name.toList

instance (name : String) : Decidable (IsFolderName name) := inferInstanceAs (Decidable (_ ∧ _ ∧ _))

theorem IsFolderName.stripChar {name : String} (proper : IsFolderName name) :
    Text.stripChar '/' name.toList = name.toList :=
  Text.stripChar_eq_self (fun first => proper.2.1 (List.mem_of_mem_head? first))
    (fun last => proper.2.1 (List.mem_of_getLast? last))

section Paths

variable {names : List String}

/-- The path of nested folders is tidy as it is. -/
theorem tidyPath_intercalate (proper : ∀ name ∈ names, IsFolderName name) (nonempty : names ≠ []) :
    tidyPath ("/".intercalate names) = "/".intercalate names := by
  have chars : ("/".intercalate names).toList = ['/'].intercalate (names.map String.toList) :=
    String.toList_intercalate
  have straight : ("/".intercalate names).toList.map (fun c => if c = '\\' then '/' else c) =
      ("/".intercalate names).toList := by
    rw [chars]
    refine (List.map_congr_left fun c member => if_neg ?_).trans (List.map_id' _)
    rintro rfl
    obtain isSlash | ⟨piece, isPiece, member⟩ := Text.mem_of_mem_intercalate member
    · exact absurd isSlash (by decide)
    · obtain ⟨name, isName, rfl⟩ := List.mem_map.mp isPiece
      exact (proper name isName).2.2 member
  have noSlash (name : String) (isName : name ∈ names) : name.toList ≠ [] ∧ '/' ∉ name.toList := by
    obtain ⟨filled, plain, -⟩ := proper name isName
    exact ⟨mt String.toList_eq_nil_iff.mp filled, plain⟩
  rw [tidyPath, straight, Text.stripChar_eq_self, String.ofList_toList]
  · obtain ⟨first, rest, rfl⟩ := List.exists_cons_of_ne_nil nonempty
    obtain ⟨filled, plain⟩ := noSlash first List.mem_cons_self
    rw [chars, List.map_cons, Text.head?_intercalate_cons filled]
    exact fun slash => plain (List.mem_of_mem_head? slash)
  · have isLast : (names.map String.toList).getLast? = some (names.getLast nonempty).toList := by
      rw [List.getLast?_map, List.getLast?_eq_some_getLast nonempty, Option.map_some]
    obtain ⟨filled, plain⟩ := noSlash _ (List.getLast_mem nonempty)
    rw [chars, Text.getLast?_intercalate isLast filled]
    exact fun slash => plain (List.mem_of_getLast? slash)

theorem segments_intercalate (proper : ∀ name ∈ names, IsFolderName name) (nonempty : names ≠ []) :
    segments ("/".intercalate names) = names := by
  rw [segments, String.toList_intercalate]
  change (List.splitOn '/' (['/'].intercalate (names.map String.toList))).map String.ofList = names
  rw [List.splitOn_intercalate]
  · simp [Function.comp_def]
  · intro chars member
    obtain ⟨name, isName, rfl⟩ := List.mem_map.mp member
    exact (proper name isName).2.1
  · simpa using nonempty

/-- A path whose first name is the router root is in scope. -/
theorem isInScope_intercalate {routerRoot : String} (root : IsFolderName routerRoot)
    (proper : ∀ name ∈ names, IsFolderName name) :
    isInScope routerRoot ("/".intercalate (routerRoot :: names)) = true := by
  have all := List.forall_mem_cons.mpr ⟨root, proper⟩
  rw [isInScope, tidyPath_intercalate all (List.cons_ne_nil _ _)]
  cases names with
  | nil => simp
  | cons name rest => simp [String.toList_intercalate]

/-- The URL of nested folders below a router root that is one folder with a plain name. -/
theorem routePath?_intercalate {routerRoot : String} (root : IsFolderName routerRoot)
    (static : Segment.ofName routerRoot = .static) (proper : ∀ name ∈ names, IsFolderName name) :
    routePath? routerRoot ("/".intercalate (routerRoot :: names)) =
      some (traces (names.dropWhile (leavesEmpty routerRoot))) := by
  have all := List.forall_mem_cons.mpr ⟨root, proper⟩
  have tidy := tidyPath_intercalate all (List.cons_ne_nil _ _)
  have parts := segments_intercalate all (List.cons_ne_nil _ _)
  have single : segments routerRoot = [routerRoot] := by
    simpa using segments_intercalate (List.forall_mem_singleton.mpr root) (List.cons_ne_nil _ _)
  rw [routePath?, tidy, if_pos (isInScope_intercalate root proper), root.stripChar,
    String.ofList_toList, rootName, single, parts]
  simp only [List.length_singleton, Nat.sub_self, List.drop_zero, List.getLastD_cons,
    List.getLastD_nil]
  rw [foldl_extendRoute_empty static, List.dropWhile_cons_of_pos]
  simp [leavesEmpty]

/-- The URL of nested folders below the standard router root. Folders in front that are called like
the router root are lost, also behind transparent ones, so that the URL has the traces of all
folders exactly when the first one that leaves a trace has another name. -/
theorem routePath?_eq_traces_iff (proper : ∀ name ∈ names, IsFolderName name) :
    routePath? defaultRouterRoot ("/".intercalate (defaultRouterRoot :: names)) =
        some (traces (names.dropWhile (leavesEmpty defaultRouterRoot))) ∧
      (routePath? defaultRouterRoot ("/".intercalate (defaultRouterRoot :: names)) =
          some (traces names) ↔
        names.find? (fun name => !(Segment.ofName name).isTransparent) ≠
          some defaultRouterRoot) := by
  have root : IsFolderName defaultRouterRoot := by decide
  have static : Segment.ofName defaultRouterRoot = .static := by decide
  have route := routePath?_intercalate root static proper
  refine ⟨route, ?_⟩
  rw [route, Option.some.injEq]
  exact traces_dropWhile_eq_iff static names

theorem routePath?_below_group :
    (∀ name ∈ ["(shop)", "[...slug]", "app"], IsFolderName name) ∧
      routePath? defaultRouterRoot "app/(shop)/[...slug]/app" = some "/[...slug]/app" := by
  have proper : ∀ name ∈ ["(shop)", "[...slug]", "app"], IsFolderName name := by decide
  exact ⟨proper, (routePath?_eq_traces_iff proper).2.mpr (by decide)⟩

/-- The inner folder called like the router root is lost, though it is not the first of the path. -/
theorem routePath?_loses_inner_root_name :
    (∀ name ∈ ["(shop)", "app"], IsFolderName name) ∧
      routePath? defaultRouterRoot "app/(shop)/app" = some "" ∧
      traces ["(shop)", "app"] = "/app" := by
  decide

end Paths

end SiteAtlas.Routing
