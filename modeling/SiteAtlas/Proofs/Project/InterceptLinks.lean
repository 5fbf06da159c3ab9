import SiteAtlas.Project.Manifest
import SiteAtlas.Proofs.Text.Pieces
import Mathlib.Algebra.GroupWithZero.Nat
import Mathlib.Data.List.Basic

/-! # Links between pages and intercepting routes

The links are made in one pass over the intercepting routes, each of which is noted at the first
page that fits it. Pages keep their place and their URL all the while, so that every route chooses
among the same pages, and the notes at a page are those of the routes that chose it.
-/

namespace SiteAtlas

namespace InterceptingRoute

variable {route : InterceptingRoute} {pages : List PageRoute} {i j : Nat}

theorem fits_iff {page : PageRoute} :
    route.fits page = true ↔ '/' :: route.target.toList <:+ page.url.toList := by
  rw [fits, Text.endsWith_iff, String.toList_append]
  rfl

/-! ## The page that a route shows -/

/-- A route shows the page at a place: it looks for something, and this is the first of the pages
whose URL ends in a slash and what it looks for. -/
structure Shows (route : InterceptingRoute) (pages : List PageRoute) (i : Nat) : Prop where
  looks : route.target ≠ ""
  fits : ∃ page, pages[i]? = some page ∧ '/' :: route.target.toList <:+ page.url.toList
  first : ∀ j < i, ∀ page, pages[j]? = some page →
    ¬ '/' :: route.target.toList <:+ page.url.toList

/-- The place of the page that a route shows. -/
def place? (route : InterceptingRoute) (pages : List PageRoute) : Option Nat :=
  if route.target.isEmpty then none else pages.findIdx? route.fits

theorem place?_eq_some_iff : route.place? pages = some i ↔ route.Shows pages i := by
  constructor
  · intro found
    unfold place? at found
    split at found
    · cases found
    next looks =>
      obtain ⟨inside, fits, first⟩ := List.findIdx?_eq_some_iff_getElem.mp found
      refine ⟨by simpa using looks, ⟨pages[i], List.getElem?_eq_getElem inside, fits_iff.mp fits⟩,
        fun j before page isPage ends => ?_⟩
      obtain ⟨inside', rfl⟩ := List.getElem?_eq_some_iff.mp isPage
      exact first j before (fits_iff.mpr ends)
  · rintro ⟨looks, ⟨page, isPage, ends⟩, first⟩
    obtain ⟨inside, rfl⟩ := List.getElem?_eq_some_iff.mp isPage
    rw [place?, if_neg (by simpa using looks), List.findIdx?_eq_some_iff_getElem]
    refine ⟨inside, fits_iff.mpr ends, fun j before fits => ?_⟩
    exact first j before _ (List.getElem?_eq_getElem (before.trans inside)) (fits_iff.mp fits)

instance : Decidable (route.Shows pages i) :=
  decidable_of_iff (route.place? pages = some i) place?_eq_some_iff

/-- No route shows two pages. -/
theorem Shows.unique (shows : route.Shows pages i) (shows' : route.Shows pages j) : i = j :=
  Option.some.inj ((place?_eq_some_iff.mpr shows).symm.trans (place?_eq_some_iff.mpr shows'))

/-- The URL of the page that a route shows. -/
def shownUrl? (route : InterceptingRoute) (pages : List PageRoute) : Option String :=
  (route.place? pages).bind fun i => pages[i]?.map PageRoute.url

theorem shownUrl?_eq_some_iff {url : String} : route.shownUrl? pages = some url ↔
    ∃ i page, route.Shows pages i ∧ pages[i]? = some page ∧ page.url = url := by
  rw [shownUrl?, Option.bind_eq_some_iff]
  refine exists_congr fun i => ?_
  rw [place?_eq_some_iff, Option.map_eq_some_iff]
  simp only [exists_and_left]

theorem isSome_shownUrl? : (route.shownUrl? pages).isSome = (route.place? pages).isSome := by
  rw [shownUrl?]
  cases place : route.place? pages with
  | none => rfl
  | some i =>
    obtain ⟨page, isPage, -⟩ := (place?_eq_some_iff.mp place).fits
    rw [Option.bind_some, isPage]
    rfl

/-! ## Noting one route -/

/-- A route is noted at the first page that fits it, and nothing else changes. -/
theorem noteAt_eq (route : InterceptingRoute) (links : List LinkedPage) :
    route.noteAt links = match (links.map LinkedPage.page).findIdx? route.fits with
      | none => (none, links)
      | some i => (links[i]?.map (·.page.url), links.modify i (·.note route.relativePath)) := by
  induction links with
  | nil => rfl
  | cons link rest ih =>
    rw [noteAt, List.map_cons, List.findIdx?_cons]
    by_cases fits : route.fits link.page = true
    · rw [if_pos fits, if_pos fits]
      rfl
    · rw [if_neg fits, if_neg fits, ih]
      cases (rest.map LinkedPage.page).findIdx? route.fits <;> rfl

theorem link_eq (route : InterceptingRoute) (links : List LinkedPage) :
    route.link links = match route.place? (links.map LinkedPage.page) with
      | none => (none, links)
      | some i => (links[i]?.map (·.page.url), links.modify i (·.note route.relativePath)) := by
  rw [link, place?]
  split
  · rfl
  · exact noteAt_eq route links

end InterceptingRoute

section Step

variable (route : InterceptingRoute) (links : List LinkedPage)

theorem fst_link : (route.link links).1 = route.shownUrl? (links.map LinkedPage.page) := by
  rw [InterceptingRoute.link_eq, InterceptingRoute.shownUrl?]
  cases route.place? (links.map LinkedPage.page) with
  | none => rfl
  | some i => rw [Option.bind_some, List.getElem?_map, Option.map_map]; rfl

/-- The pages themselves stay as they are. -/
theorem map_page_link : (route.link links).2.map LinkedPage.page = links.map LinkedPage.page := by
  rw [InterceptingRoute.link_eq]
  cases route.place? (links.map LinkedPage.page) with
  | none => rfl
  | some i =>
    apply List.ext_getElem?
    intro j
    simp only [List.getElem?_map, List.getElem?_modify]
    cases links[j]? with
    | none => rfl
    | some link => by_cases here : i = j <;> simp [here, LinkedPage.note]

/-- A page has the route noted if the route shows it. -/
theorem interceptedBy_link (j : Nat) :
    (route.link links).2[j]?.map LinkedPage.interceptedBy = links[j]?.map fun link =>
      link.interceptedBy ++ (if route.Shows (links.map LinkedPage.page) j then
        [route.relativePath] else []) := by
  simp only [InterceptingRoute.link_eq, ← InterceptingRoute.place?_eq_some_iff]
  cases route.place? (links.map LinkedPage.page) with
  | none => simp
  | some i =>
    simp only [List.getElem?_modify, Option.some.injEq]
    cases links[j]? with
    | none => rfl
    | some link => by_cases here : i = j <;> simp [here, LinkedPage.note]

/-- One more note stands at one of the pages. -/
theorem perm_modify_note {links : List LinkedPage} {i : Nat} (inside : i < links.length)
    (path : String) :
    ((links.modify i (·.note path)).flatMap LinkedPage.interceptedBy).Perm
      (links.flatMap LinkedPage.interceptedBy ++ [path]) := by
  induction links generalizing i with
  | nil => cases inside
  | cons link rest ih =>
    cases i with
    | zero =>
      rw [List.modify_zero_cons, List.flatMap_cons, List.flatMap_cons, LinkedPage.note,
        List.append_assoc, List.append_assoc]
      exact List.perm_append_comm.append_left _
    | succ i =>
      rw [List.modify_succ_cons, List.flatMap_cons, List.flatMap_cons, List.append_assoc]
      exact (ih (by simpa using inside)).append_left _

/-- Linking a route adds it to the notes exactly if it shows a page. -/
theorem perm_link : ((route.link links).2.flatMap LinkedPage.interceptedBy).Perm
    (links.flatMap LinkedPage.interceptedBy ++
      if (route.link links).1.isSome then [route.relativePath] else []) := by
  rw [fst_link, InterceptingRoute.isSome_shownUrl?, InterceptingRoute.link_eq]
  cases place : route.place? (links.map LinkedPage.page) with
  | none => simp
  | some i =>
    obtain ⟨page, isPage, -⟩ := (InterceptingRoute.place?_eq_some_iff.mp place).fits
    have inside : i < links.length := by
      simpa using (List.getElem?_eq_some_iff.mp isPage).1
    exact perm_modify_note inside route.relativePath

end Step

/-! ## Linking all routes -/

section Run

variable (routes : List InterceptingRoute) (links : List LinkedPage)

theorem linkRoutes_cons (route : InterceptingRoute) :
    linkRoutes (route :: routes) links =
      (⟨route, (route.link links).1⟩ :: (linkRoutes routes (route.link links).2).1,
        (linkRoutes routes (route.link links).2).2) := rfl

theorem map_route_linkRoutes : (linkRoutes routes links).1.map LinkedRoute.route = routes := by
  induction routes generalizing links with
  | nil => rfl
  | cons route rest ih => exact congrArg _ (ih _)

theorem map_page_linkRoutes :
    (linkRoutes routes links).2.map LinkedPage.page = links.map LinkedPage.page := by
  induction routes generalizing links with
  | nil => rfl
  | cons route rest ih => exact (ih _).trans (map_page_link route links)

/-- Every route has the URL of the page that it shows among all pages. -/
theorem shown?_of_mem_linkRoutes {linked : LinkedRoute}
    (member : linked ∈ (linkRoutes routes links).1) :
    linked.shown? = linked.route.shownUrl? (links.map LinkedPage.page) := by
  induction routes generalizing links with
  | nil => cases member
  | cons route rest ih =>
    rw [linkRoutes_cons] at member
    rcases List.mem_cons.mp member with rfl | member
    · exact fst_link route links
    · rw [ih _ member, map_page_link]

/-- Behind the notes that a page had before are those of the routes that show it, in their order. -/
theorem interceptedBy_linkRoutes (i : Nat) :
    (linkRoutes routes links).2[i]?.map LinkedPage.interceptedBy = links[i]?.map fun link =>
      link.interceptedBy ++ (routes.filter (·.Shows (links.map LinkedPage.page) i)).map
        InterceptingRoute.relativePath := by
  induction routes generalizing links with
  | nil => simp [linkRoutes]
  | cons route rest ih =>
    have step := interceptedBy_link route links i
    have later := ih (route.link links).2
    rw [map_page_link] at later
    rw [linkRoutes_cons, later]
    cases before : links[i]? with
    | none =>
      rw [before, Option.map_none, Option.map_eq_none_iff] at step
      rw [step]
      rfl
    | some link =>
      rw [before, Option.map_some] at step
      obtain ⟨link', isLink, notes⟩ := Option.map_eq_some_iff.mp step
      rw [isLink, Option.map_some, Option.map_some, notes, List.filter_cons, List.append_assoc]
      by_cases shows : route.Shows (links.map LinkedPage.page) i <;> simp [shows]

/-- The notes of all pages are those of the routes that show one, each of them once. -/
theorem perm_linkRoutes : ((linkRoutes routes links).2.flatMap LinkedPage.interceptedBy).Perm
    (links.flatMap LinkedPage.interceptedBy ++
      ((linkRoutes routes links).1.filter (·.shown?.isSome)).map (·.route.relativePath)) := by
  induction routes generalizing links with
  | nil => simp [linkRoutes]
  | cons route rest ih =>
    have later := ih (route.link links).2
    have step := (perm_link route links).append_right
      (((linkRoutes rest (route.link links).2).1.filter (·.shown?.isSome)).map
        (·.route.relativePath))
    refine (later.trans step).trans (.of_eq ?_)
    rw [List.append_assoc]
    refine congrArg _ ?_
    rw [linkRoutes_cons]
    cases (route.link links).1 <;> simp

end Run

namespace Manifest

/-! ## The links of a manifest -/

/-- Before routes are linked, the pages are those of the manifest. -/
theorem map_page_unlinked (pages : List PageRoute) :
    (pages.map fun page => ({ page := page } : LinkedPage)).map LinkedPage.page = pages := by
  simp [Function.comp_def]

/-- Before routes are linked, no page has one noted. -/
theorem flatMap_unlinked (pages : List PageRoute) :
    (pages.map fun page => ({ page := page } : LinkedPage)).flatMap LinkedPage.interceptedBy =
      [] := by
  simp [List.flatMap_eq_nil_iff]

section Links

variable (m : Manifest)

theorem map_route_links : m.links.1.map LinkedRoute.route = m.intercepts :=
  map_route_linkRoutes _ _

theorem map_page_links : m.links.2.map LinkedPage.page = m.pages :=
  (map_page_linkRoutes _ _).trans (map_page_unlinked _)

variable {m}

theorem shown?_of_mem_links {linked : LinkedRoute} (member : linked ∈ m.links.1) :
    linked.shown? = linked.route.shownUrl? m.pages := by
  have shown := shown?_of_mem_linkRoutes m.intercepts _ member
  rwa [map_page_unlinked] at shown

theorem interceptedBy_of_links {i : Nat} {linked : LinkedPage}
    (isLinked : m.links.2[i]? = some linked) :
    linked.interceptedBy = (m.intercepts.filter (·.Shows m.pages i)).map
      InterceptingRoute.relativePath := by
  have run := interceptedBy_linkRoutes m.intercepts (m.pages.map fun page => { page := page }) i
  rw [map_page_unlinked] at run
  change m.links.2[i]?.map LinkedPage.interceptedBy = _ at run
  rw [isLinked] at run
  obtain ⟨unlinked, isPage, notes⟩ := Option.map_eq_some_iff.mp run.symm
  obtain ⟨page, -, rfl⟩ := List.mem_map.mp (List.mem_of_getElem? isPage)
  exact notes.symm

variable (m)

/-- The notes of all pages are those of the routes with a URL, each of them once. -/
theorem perm_links : (m.links.2.flatMap LinkedPage.interceptedBy).Perm
    ((m.links.1.filter (·.shown?.isSome)).map (·.route.relativePath)) := by
  have run := perm_linkRoutes m.intercepts (m.pages.map fun page => { page := page })
  rwa [flatMap_unlinked, List.nil_append] at run

theorem sum_length_links : (m.links.2.map fun linked => linked.interceptedBy.length).sum =
    m.links.1.countP fun linked => linked.shown?.isSome := by
  rw [← List.length_flatMap, (perm_links m).length_eq, List.length_map,
    List.countP_eq_length_filter]

end Links

/-- The links of a manifest agree in both directions. An intercepting route that looks for something
has the URL of the first page, in the order of the pages, whose URL ends in a slash and that, and
every other route has none. At each page the routes that show it are noted, in their order and by
their relative paths. No route shows two pages, so that the notes of all pages are those of the
routes with a URL, each of them once, and as many. -/
theorem intercepts_linked_both_ways (tree : StructureNode) (files : FileSystem)
    (root : Path) (routerRoot : String) :
    let m := Manifest.ofTree tree files root routerRoot
    let routes := m.links.1
    let pages := m.links.2
    routes.map LinkedRoute.route = m.intercepts ∧
      pages.map LinkedPage.page = m.pages ∧
      (∀ linked ∈ routes, ∀ url, linked.shown? = some url ↔
        ∃ i page, linked.route.Shows m.pages i ∧ m.pages[i]? = some page ∧ page.url = url) ∧
      (∀ i linked, pages[i]? = some linked →
        linked.interceptedBy = (m.intercepts.filter fun route => route.Shows m.pages i).map
          InterceptingRoute.relativePath) ∧
      (∀ route ∈ m.intercepts, ∀ i j, route.Shows m.pages i → route.Shows m.pages j → i = j) ∧
      (pages.flatMap LinkedPage.interceptedBy).Perm
        ((routes.filter fun linked => linked.shown?.isSome).map fun linked =>
          linked.route.relativePath) ∧
      (pages.map fun linked => linked.interceptedBy.length).sum =
        routes.countP fun linked => linked.shown?.isSome := by
  intro m routes pages
  refine ⟨map_route_links m, map_page_links m, ?_, ?_, ?_, perm_links m, sum_length_links m⟩
  · intro linked member url
    rw [shown?_of_mem_links member]
    exact InterceptingRoute.shownUrl?_eq_some_iff
  · intro i linked isLinked
    exact interceptedBy_of_links isLinked
  · intro route _ i j
    exact InterceptingRoute.Shows.unique

/-- Two pages with the same URL, in two groups, and intercepting routes for their URL and for one
that no page has. -/
def photoTree : StructureNode :=
  let entry (relative route : String) : Entry :=
    { name := Path.name (Path.ofString relative), fullPath := "/site/" ++ relative
      relativePath := relative, inScope := true, route := some route }
  let folder (relative route : String) (children : List StructureNode) : StructureNode :=
    .folder (entry relative route) (some (.ofName (Path.name (Path.ofString relative)))) children
  let page (relative : String) : StructureNode :=
    .file (entry relative "/photo") (some { role := .routeFile .page, baseName := "page" })
  .folder { name := "site", fullPath := "/site", relativePath := "site" } none
    [folder "app" "/"
      [folder "app/(card)" "/"
        [folder "app/(card)/photo" "/photo" [page "app/(card)/photo/page.tsx"]],
        folder "app/(sheet)" "/"
          [folder "app/(sheet)/photo" "/photo" [page "app/(sheet)/photo/page.tsx"]],
        folder "app/feed" "/feed"
          [folder "app/feed/(..)photo" "/feed" [], folder "app/feed/(..)video" "/feed" []],
        folder "app/shop" "/shop" [folder "app/shop/(..)photo" "/shop" []]]]

/-- Both routes for the URL are noted at the first of the pages that have it, and nowhere else. -/
theorem intercepts_linked_in_photoTree :
    let m := Manifest.ofTree photoTree {} ⟨1, ["site"]⟩ "app"
    m.links.1.map (fun linked => (linked.route.relativePath, linked.shown?)) =
        [("app/feed/(..)photo", some "/photo"), ("app/feed/(..)video", none),
          ("app/shop/(..)photo", some "/photo")] ∧
      m.links.2.map (fun linked => (linked.page.file, linked.interceptedBy)) =
        [("app/(card)/photo/page.tsx", ["app/feed/(..)photo", "app/shop/(..)photo"]),
          ("app/(sheet)/photo/page.tsx", [])] ∧
      (m.links.2.map fun linked => linked.interceptedBy.length).sum =
        m.links.1.countP fun linked => linked.shown?.isSome := by
  obtain ⟨-, -, -, -, -, -, counts⟩ :=
    intercepts_linked_both_ways photoTree {} ⟨1, ["site"]⟩ "app"
  refine ⟨?_, ?_, counts⟩
  · decide +kernel
  · decide +kernel

end Manifest

end SiteAtlas
