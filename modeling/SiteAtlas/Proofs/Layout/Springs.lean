import SiteAtlas.Proofs.Layout.ExactForces
import Mathlib.Algebra.BigOperators.Group.Finset.Basic
import Mathlib.Data.List.Forall2
import Mathlib.Tactic.NormNum

/-! # How links share their pull

A link goes from the last box with the one id to the last box with the other. The box at either end
of a link has a link end, so that no share is a quotient by zero, and the link ends at all boxes
are two for each link.
-/

namespace SiteAtlas.Force

variable {ρ : Type} {ids : List String} {id : String} {edges : List Edge}

section Places

/-- A place in a list of ids is the last one of an id. -/
def IsLastPlace (ids : List String) (id : String) (i : Nat) : Prop :=
  ids[i]? = some id ∧ ∀ j, i < j → ids[j]? ≠ some id

theorem placeOf?_concat (ids : List String) (last id : String) :
    placeOf? (ids ++ [last]) id = if last = id then some ids.length else placeOf? ids id := by
  simp only [placeOf?, List.zipIdx_append, List.zipIdx_cons, List.zipIdx_nil, List.reverse_append,
    List.reverse_singleton, List.singleton_append, List.find?_cons]
  split
  · rename_i same
    rw [if_pos (beq_iff_eq.mp same)]
    exact congrArg some (Nat.zero_add _)
  · rename_i different
    rw [if_neg (beq_eq_false_iff_ne.mp different)]

theorem isLastPlace_of_placeOf? {i : Nat} (found : placeOf? ids id = some i) :
    IsLastPlace ids id i := by
  induction ids using List.reverseRecOn with
  | nil => cases found
  | append_singleton ids last ih =>
    rw [placeOf?_concat] at found
    split at found
    · rename_i same
      cases found
      refine ⟨by rw [List.getElem?_concat_length, same], fun j behind => ?_⟩
      rw [List.getElem?_eq_none (by rw [List.length_append]; exact behind)]
      exact nofun
    · rename_i different
      obtain ⟨here, others⟩ := ih found
      obtain ⟨inside, -⟩ := List.getElem?_eq_some_iff.mp here
      refine ⟨by rwa [List.getElem?_append_left inside], fun j behind holds => ?_⟩
      obtain within | beyond := Nat.lt_or_ge j ids.length
      · rw [List.getElem?_append_left within] at holds
        exact others j behind holds
      · rw [List.getElem?_append_right beyond] at holds
        exact different (List.mem_singleton.mp (List.mem_of_getElem? holds)).symm

theorem placeOf?_isSome : (placeOf? ids id).isSome = true ↔ id ∈ ids := by
  induction ids using List.reverseRecOn with
  | nil => exact ⟨nofun, nofun⟩
  | append_singleton ids last ih =>
    rw [placeOf?_concat, List.mem_append, List.mem_singleton, ← ih]
    split
    · rename_i same
      exact iff_of_true rfl (.inr same.symm)
    · rename_i different
      exact (or_iff_left (Ne.symm different)).symm

end Places

section Ends

/-- Both ends of a link are there. -/
def known (ids : List String) (e : Edge) : Bool := e.source ∈ ids ∧ e.target ∈ ids

theorem springEnds_append (ids : List String) (front back : List Edge) :
    springEnds ids (front ++ back) = springEnds ids front ++ springEnds ids back :=
  List.filterMap_append

theorem springEnds_cons_of_known {e : Edge} (there : known ids e = true) :
    ∃ i j, placeOf? ids e.source = some i ∧ placeOf? ids e.target = some j ∧
      ∀ rest, springEnds ids (e :: rest) = (i, j) :: springEnds ids rest := by
  obtain ⟨source, target⟩ := of_decide_eq_true there
  obtain ⟨i, first⟩ := Option.isSome_iff_exists.mp (placeOf?_isSome.mpr source)
  obtain ⟨j, second⟩ := Option.isSome_iff_exists.mp (placeOf?_isSome.mpr target)
  refine ⟨i, j, first, second, fun rest => ?_⟩
  simp only [springEnds, List.filterMap_cons, first, second]

theorem springEnds_cons_of_unknown {e : Edge} (missing : known ids e = false) (rest : List Edge) :
    springEnds ids (e :: rest) = springEnds ids rest := by
  have notBoth := of_decide_eq_false missing
  rw [← placeOf?_isSome, ← placeOf?_isSome] at notBoth
  cases source : placeOf? ids e.source with
  | none => simp only [springEnds, List.filterMap_cons, source]
  | some i =>
    cases target : placeOf? ids e.target with
    | none => simp only [springEnds, List.filterMap_cons, source, target]
    | some j => exact absurd ⟨by rw [source]; rfl, by rw [target]; rfl⟩ notBoth

/-- The links are those edges both of whose ends are there, in order, and each goes from the last
box with the one id to the last box with the other. -/
theorem forall₂_springEnds (ids : List String) (edges : List Edge) :
    List.Forall₂ (fun e ends => IsLastPlace ids e.source ends.1 ∧ IsLastPlace ids e.target ends.2)
      (edges.filter (known ids)) (springEnds ids edges) := by
  induction edges with
  | nil => exact .nil
  | cons e rest ih =>
    by_cases there : known ids e = true
    · obtain ⟨i, j, source, target, ends⟩ := springEnds_cons_of_known there
      rw [List.filter_cons_of_pos there, ends]
      exact .cons ⟨isLastPlace_of_placeOf? source, isLastPlace_of_placeOf? target⟩ ih
    · rw [List.filter_cons_of_neg there,
        springEnds_cons_of_unknown (Bool.eq_false_iff.mpr there)]
      exact ih

theorem lt_length_of_mem_springEnds {i j : Nat} (member : (i, j) ∈ springEnds ids edges) :
    i < ids.length ∧ j < ids.length := by
  have inside {id : String} {i : Nat} (found : placeOf? ids id = some i) : i < ids.length :=
    (List.getElem?_eq_some_iff.mp (isLastPlace_of_placeOf? found).1).1
  obtain ⟨e, -, ends⟩ := List.mem_filterMap.mp member
  split at ends
  · rename_i source target
    cases ends
    exact ⟨inside source, inside target⟩
  · cases ends

end Ends

section Degrees

variable {ends : List (Nat × Nat)} {i j : Nat}

/-- The places at the ends of links, two for each link. -/
def linkEnds (ends : List (Nat × Nat)) : List Nat := ends.flatMap fun (i, j) => [i, j]

theorem length_linkEnds (ends : List (Nat × Nat)) : (linkEnds ends).length = 2 * ends.length := by
  induction ends with
  | nil => rfl
  | cons link rest ih =>
    rw [linkEnds, List.flatMap_cons, List.length_append, ← linkEnds, ih, List.length_cons]
    exact (Nat.add_comm 2 _).trans (Nat.mul_succ 2 _).symm

theorem total_eq_sum (counts : List Nat) : total counts = counts.sum := List.sum_eq_foldl.symm

theorem degree_eq_count (ends : List (Nat × Nat)) (i : Nat) :
    degree ends i = (linkEnds ends).count i := by
  simp only [degree, total_eq_sum]
  induction ends with
  | nil => rfl
  | cons link rest ih =>
    rw [List.map_cons, List.sum_cons, ih]
    change _ = (link.1 :: link.2 :: linkEnds rest).count i
    rw [List.count_cons, List.count_cons]
    simp only [beq_iff_eq]
    omega

theorem degree_append (front back : List (Nat × Nat)) (i : Nat) :
    degree (front ++ back) i = degree front i + degree back i := by
  rw [degree_eq_count, degree_eq_count, degree_eq_count, linkEnds, List.flatMap_append,
    List.count_append]
  rfl

theorem degree_pos (member : (i, j) ∈ ends) : 0 < degree ends i ∧ 0 < degree ends j := by
  rw [degree_eq_count, degree_eq_count, List.count_pos_iff, List.count_pos_iff]
  have atEnd (k : Nat) (here : k ∈ [i, j]) : k ∈ linkEnds ends :=
    List.mem_flatMap_of_mem member here
  exact ⟨atEnd i (by simp), atEnd j (by simp)⟩

theorem sum_degree {count : Nat} (within : ∀ i ∈ linkEnds ends, i < count) :
    ((List.range count).map (degree ends)).sum = 2 * ends.length := by
  have counted : degree ends = fun i => (linkEnds ends : Multiset Nat).count i :=
    funext fun i => (degree_eq_count ends i).trans (Multiset.coe_count i _).symm
  calc ((List.range count).map (degree ends)).sum
      = ∑ i ∈ Finset.range count, (linkEnds ends : Multiset Nat).count i := by
        rw [counted]
        rfl
    _ = (linkEnds ends).length :=
        Multiset.sum_count_eq_card fun i here => Finset.mem_range.mpr (within i here)
    _ = 2 * ends.length := length_linkEnds ends

end Degrees

section Shares

/-- A link whose target takes the part of the pull that its source has of the link ends at both. -/
def shared (ends : List (Nat × Nat)) (link : Nat × Nat) : Spring Rat :=
  ⟨link.1, link.2, degree ends link.1 / (degree ends link.1 + degree ends link.2)⟩

theorem springs_eq (ids : List String) (edges : List Edge) :
    springs ids edges = (springEnds ids edges).map (shared (springEnds ids edges)) := by
  refine List.map_congr_left fun (i, j) _ => ?_
  rw [shared, ← Nat.cast_add]

theorem bias_shared {ends : List (Nat × Nat)} {link : Nat × Nat} (member : link ∈ ends) :
    0 < (shared ends link).bias ∧ (shared ends link).bias < 1 ∧
      (shared ends link.swap).bias = 1 - (shared ends link).bias := by
  obtain ⟨source, target⟩ := degree_pos member
  have out : (0 : Rat) < degree ends link.1 := Nat.cast_pos.mpr source
  have into : (0 : Rat) < degree ends link.2 := Nat.cast_pos.mpr target
  have both := add_pos out into
  refine ⟨div_pos out both, (div_lt_one both).mpr (lt_add_of_pos_right _ into), ?_⟩
  simp only [shared, Prod.fst_swap, Prod.snd_swap]
  rw [one_sub_div both.ne', add_sub_cancel_left, add_comm]

/-- Turning a link around moves no link end to another box. -/
theorem shared_swap (front back : List (Nat × Nat)) (link : Nat × Nat) :
    shared (front ++ link.swap :: back) = shared (front ++ link :: back) := by
  have same : degree (front ++ link.swap :: back) = degree (front ++ link :: back) := by
    funext i
    have turned : degree [link.swap] i = degree [link] i :=
      congrArg (0 + ·) (Nat.add_comm _ _)
    rw [degree_append, degree_append, ← List.singleton_append, degree_append [link.swap], turned,
      ← degree_append [link], List.singleton_append]
  funext
  rw [shared, shared, same]

/-- Turning an edge around turns its link around, with the rest of the share, and changes no other
link. -/
theorem springs_reverse (front back : List Edge) {e : Edge} (there : known ids e = true) :
    ∃ before link after,
      springs (α := Rat) ids (front ++ e :: back) = before ++ link :: after ∧
      before.length = (front.filter (known ids)).length ∧
      springs ids (front ++ { e with source := e.target, target := e.source } :: back)
        = before ++ ⟨link.target, link.source, 1 - link.bias⟩ :: after := by
  have turned : known ids { e with source := e.target, target := e.source } = true :=
    decide_eq_true (of_decide_eq_true there).symm
  obtain ⟨i, j, source, target, ends⟩ := springEnds_cons_of_known there
  obtain ⟨j', i', target', source', endsTurned⟩ := springEnds_cons_of_known turned
  obtain rfl := Option.some.inj (source.symm.trans source')
  obtain rfl := Option.some.inj (target.symm.trans target')
  have first : (springEnds ids front).length = (front.filter (known ids)).length :=
    (forall₂_springEnds ids front).length_eq.symm
  have rest := bias_shared (List.mem_append_right (springEnds ids front)
    (List.mem_cons_self (a := (i, j)) (l := springEnds ids back)))
  have swapped := shared_swap (springEnds ids front) (springEnds ids back) (i, j)
  simp only [springs_eq, springEnds_append, ends, endsTurned, List.map_append, List.map_cons]
  refine ⟨_, _, _, rfl, (List.length_map _).trans first, ?_⟩
  rw [Prod.swap_prod_mk] at swapped
  rw [swapped]
  exact congrArg (_ ++ Spring.mk j i · :: _) rest.2.2

end Shares

section Pull

variable {arith : ForceArithmetic Rat ρ} {s : ForceSettings Rat}

theorem accelerate_accelerate (bodies : List (Body Rat)) (i : Nat) (dx dy : Rat) :
    accelerate (accelerate bodies i (-dx) (-dy)) i dx dy = bodies := by
  have still : (fun b : Body Rat => { b with vx := b.vx + -dx + dx, vy := b.vy + -dy + dy }) = id :=
    funext fun b => by simp only [neg_add_cancel_right, id_eq]
  rw [accelerate, accelerate, List.modify_modify_eq]
  exact (congrArg (bodies.modify i) still).trans (List.modify_id _ _)

/-- A link from a box to itself that takes half of the pull at either end changes nothing. -/
theorem pull_self {alpha : Rat} {bodies : List (Body Rat)} {random : ρ} {link : Spring Rat}
    {next : List (Body Rat) × ρ} (loop : link.source = link.target) (half : link.bias = 1 / 2)
    (success : pull arith s alpha (bodies, random) link = .ok next) : next.1 = bodies := by
  simp only [pull] at success
  split at success
  · split at success
    · cases success
    · cases success
      have rest : ((1 : Nat) : Rat) - link.bias = link.bias := by
        rw [half]
        norm_num
      rw [loop]
      exact (congrArg₂ (accelerate _ link.target) (congrArg _ rest) (congrArg _ rest)).trans
        (accelerate_accelerate bodies link.target _ _)
  · cases success
    rfl

theorem exists_pull (exact : arith.IsExact) (never : arith.NeverZero) (s : ForceSettings Rat)
    (alpha : Rat) (state : List (Body Rat) × ρ) (link : Spring Rat) :
    ∃ next, pull arith s alpha state link = .ok next := by
  simp only [pull]
  split
  · rw [exact.divide_of_ne_zero (never.root _ (square_pos (ne_zero_nonZero never _ _) _))]
    exact ⟨_, rfl⟩
  · exact ⟨_, rfl⟩

end Pull

section Start

/-- The places that links go between. -/
def endsOf (links : List (Spring Rat)) : List (Nat × Nat) :=
  links.map fun link => (link.source, link.target)

/-- How links between the boxes with given ids share their pull. -/
structure Shares (ids : List String) (edges : List Edge) (links : List (Spring Rat)) : Prop where
  /-- The links are the edges both of whose ends are there, in order, each between the last boxes
  with its ids. -/
  kept : List.Forall₂
    (fun e link => IsLastPlace ids e.source link.source ∧ IsLastPlace ids e.target link.target)
    (edges.filter (known ids)) links
  /-- The degree of a box is the number of link ends there. -/
  counted (i : Nat) : degree (endsOf links) i = (linkEnds (endsOf links)).count i
  /-- The degrees of all boxes are two for each link. -/
  twice : ((List.range ids.length).map (degree (endsOf links))).sum = 2 * links.length
  /-- No bias is a quotient by zero. -/
  divisor : ∀ link ∈ links,
    degree (endsOf links) link.source + degree (endsOf links) link.target ≠ 0
  /-- The bias is the part that the source has of the degrees of both. -/
  bias : ∀ link ∈ links, link.bias = degree (endsOf links) link.source
    / (degree (endsOf links) link.source + degree (endsOf links) link.target)
  /-- Each end takes a part of the pull. -/
  strict : ∀ link ∈ links, 0 < link.bias ∧ link.bias < 1

theorem shares_springs (ids : List String) (edges : List Edge) :
    Shares ids edges (springs ids edges) := by
  have ends : endsOf (springs ids edges) = springEnds ids edges := by
    rw [endsOf, springs_eq, List.map_map]
    exact List.map_id _
  have made (link : Spring Rat) (member : link ∈ springs ids edges) :
      ∃ pair ∈ springEnds ids edges, shared (springEnds ids edges) pair = link := by
    rw [springs_eq] at member
    exact List.mem_map.mp member
  have within (i : Nat) (atEnd : i ∈ linkEnds (springEnds ids edges)) : i < ids.length := by
    obtain ⟨pair, member, here⟩ := List.mem_flatMap.mp atEnd
    obtain ⟨source, target⟩ := lt_length_of_mem_springEnds member
    obtain rfl | rfl := List.mem_pair.mp here
    · exact source
    · exact target
  constructor
  case kept =>
    rw [springs_eq, List.forall₂_map_right_iff]
    exact forall₂_springEnds ids edges
  case counted => exact degree_eq_count _
  case twice =>
    rw [ends, sum_degree within, springs_eq, List.length_map]
  case divisor =>
    intro link member
    obtain ⟨pair, there, rfl⟩ := made link member
    rw [ends]
    exact Nat.ne_of_gt (Nat.add_pos_left (degree_pos there).1 _)
  case bias =>
    intro link member
    obtain ⟨pair, -, rfl⟩ := made link member
    rw [ends]
    rfl
  case strict =>
    intro link member
    obtain ⟨pair, there, rfl⟩ := made link member
    exact ⟨(bias_shared there).1, (bias_shared there).2.1⟩

/-- The links of a start share their pull by the degrees of their ends. An edge turned around has
the rest of the bias, and no other link changes. A link from a box to itself has half of it and
changes nothing when it pulls. -/
theorem start_shares_pull (arith : ForceArithmetic Rat ρ) (s : ForceSettings Rat) (random : ρ)
    (nodes : List (Node Rat)) (edges : List Edge) :
    Shares (nodes.map (·.id)) edges (start arith s random nodes edges).springs ∧
    (∀ front e back, edges = front ++ e :: back → known (nodes.map (·.id)) e = true →
      ∃ before link after,
        (start arith s random nodes edges).springs = before ++ link :: after ∧
        before.length = (front.filter (known (nodes.map (·.id)))).length ∧
        (start arith s random nodes
            (front ++ { e with source := e.target, target := e.source } :: back)).springs
          = before ++ ⟨link.target, link.source, 1 - link.bias⟩ :: after) ∧
    ∀ link ∈ (start arith s random nodes edges).springs, link.source = link.target →
      link.bias = 1 / 2 ∧
      ∀ (alpha : Rat) (bodies : List (Body Rat)) (random : ρ),
        (∀ next, pull arith s alpha (bodies, random) link = .ok next → next.1 = bodies) ∧
        (arith.IsExact → arith.NeverZero →
          ∃ next, pull arith s alpha (bodies, random) link = .ok next) := by
  have shares := shares_springs (nodes.map (·.id)) edges
  refine ⟨shares, ?_, fun link member loop => ?_⟩
  · rintro front e back rfl there
    exact springs_reverse front back there
  · have half : link.bias = 1 / 2 := by
      have degrees := shares.divisor link member
      rw [loop] at degrees
      have positive : (degree (endsOf (springs (nodes.map (·.id)) edges)) link.target : Rat) ≠ 0 :=
        Nat.cast_ne_zero.mpr (by omega)
      rw [shares.bias link member, loop, ← mul_two, div_mul_cancel_left₀ positive, one_div]
    exact ⟨half, fun alpha bodies random => ⟨fun next => pull_self loop half,
      fun exact never => exists_pull exact never s alpha _ link⟩⟩

example : (springs (α := Rat) ["A", "B", "A"] [{ id := "0", source := "A", target := "B" },
    { id := "1", source := "C", target := "A" }, { id := "2", source := "A", target := "A" }]).map
      (fun link => (link.source, link.target, link.bias)) = [(2, 1, 3 / 4), (2, 2, 1 / 2)] := by
  decide +kernel

end Start

end SiteAtlas.Force
