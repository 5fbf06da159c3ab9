import SiteAtlas.Layout.Pairs
import Mathlib.Algebra.Group.Basic

/-! # What meetings keep

Whatever no meeting changes about the two elements that meet stays as it is for the whole list when
every element meets every later one. What no meeting changes about the sum of the two does not
change about the sum of the list, and a list in which no meeting changes anything is not changed.
No meeting fails in a list if no two elements can fail to meet.
-/

namespace SiteAtlas

variable {β γ σ ε τ : Type} {reading : β → τ} {anchor : β → γ}
  {meet : γ → β → β → σ → Except ε (β × β × σ)}

section Steps

theorem exists_of_meetAll_cons {c : γ} {a b last : β} {rest all : List β} {s final : σ}
    (success : meetAll meet c a (b :: rest) s = .ok (last, all, final)) :
    ∃ first other state others, meet c a b s = .ok (first, other, state) ∧
      meetAll meet c first rest state = .ok (last, others, final) ∧ all = other :: others := by
  simp only [meetAll] at success
  split at success
  · cases success
  · rename_i first other state met
    split at success
    · cases success
    · rename_i last others final run
      cases success
      exact ⟨first, other, state, others, met, run, rfl⟩

theorem exists_of_forPairsFrom_cons {count : Nat} {a : β} {rest all : List β} {s final : σ}
    (success : forPairsFrom anchor meet (count + 1) (a :: rest) s = .ok (all, final)) :
    ∃ first others state last, meetAll meet (anchor a) a rest s = .ok (first, others, state) ∧
      forPairsFrom anchor meet count others state = .ok (last, final) ∧ all = first :: last := by
  simp only [forPairsFrom] at success
  split at success
  · cases success
  · rename_i first others state met
    split at success
    · cases success
    · rename_i last final run
      cases success
      exact ⟨first, others, state, last, met, run, rfl⟩

end Steps

section Returning

theorem exists_meetAll (returns : ∀ c a b s, ∃ result, meet c a b s = .ok result) (c : γ) (a : β)
    (rest : List β) (s : σ) : ∃ result, meetAll meet c a rest s = .ok result := by
  induction rest generalizing a s with
  | nil => exact ⟨_, rfl⟩
  | cons b rest ih =>
    obtain ⟨⟨first, other, state⟩, met⟩ := returns c a b s
    obtain ⟨⟨last, others, final⟩, run⟩ := ih first state
    exact ⟨(last, other :: others, final), by simp only [meetAll, met, run]⟩

theorem exists_forPairsFrom (returns : ∀ c a b s, ∃ result, meet c a b s = .ok result)
    (count : Nat) (elements : List β) (s : σ) :
    ∃ result, forPairsFrom anchor meet count elements s = .ok result := by
  induction count generalizing elements s with
  | zero => exact ⟨_, rfl⟩
  | succ count ih =>
    cases elements with
    | nil => exact ⟨_, rfl⟩
    | cons a rest =>
      obtain ⟨⟨first, others, state⟩, met⟩ := exists_meetAll returns (anchor a) a rest s
      obtain ⟨⟨last, final⟩, run⟩ := ih others state
      exact ⟨(first :: last, final), by simp only [forPairsFrom, met, run]⟩

/-- When no meeting fails, every element can meet every later one. -/
theorem exists_forPairs (anchor : β → γ)
    (returns : ∀ c a b s, ∃ result, meet c a b s = .ok result) (elements : List β) (s : σ) :
    ∃ result, forPairs anchor meet elements s = .ok result :=
  exists_forPairsFrom returns elements.length elements s

end Returning

section Resting

theorem meetAll_eq_self {c : γ} {a : β} {rest : List β} {s : σ}
    (rests : ∀ b ∈ rest, meet c a b s = .ok (a, b, s)) :
    meetAll meet c a rest s = .ok (a, rest, s) := by
  induction rest with
  | nil => rfl
  | cons b rest ih =>
    have first := rests b List.mem_cons_self
    have others := ih fun other member => rests other (List.mem_cons_of_mem b member)
    simp only [meetAll, first, others]

theorem forPairsFrom_eq_self {count : Nat} {elements : List β} {s : σ}
    (rests : elements.Pairwise fun a b => meet (anchor a) a b s = .ok (a, b, s)) :
    forPairsFrom anchor meet count elements s = .ok (elements, s) := by
  induction count generalizing elements with
  | zero => rfl
  | succ count ih =>
    cases elements with
    | nil => rfl
    | cons a rest =>
      obtain ⟨first, others⟩ := List.pairwise_cons.mp rests
      simp only [forPairsFrom, meetAll_eq_self first, ih others]

/-- When no meeting of two elements changes anything, the list and the state stay. -/
theorem forPairs_eq_self {elements : List β} {s : σ}
    (rests : elements.Pairwise fun a b => meet (anchor a) a b s = .ok (a, b, s)) :
    forPairs anchor meet elements s = .ok (elements, s) :=
  forPairsFrom_eq_self rests

end Resting

section Keeping

/-- What is read off the elements is not changed by any meeting. -/
def MeetKeeps (reading : β → τ) (meet : γ → β → β → σ → Except ε (β × β × σ)) : Prop :=
  ∀ c a b s a' b' s', meet c a b s = .ok (a', b', s') →
    reading a' = reading a ∧ reading b' = reading b

theorem MeetKeeps.comp {τ' : Type} (keeps : MeetKeeps reading meet) (f : τ → τ') :
    MeetKeeps (f ∘ reading) meet := fun c a b s a' b' s' met =>
  (keeps c a b s a' b' s' met).imp (congrArg f) (congrArg f)

theorem map_meetAll (keeps : MeetKeeps reading meet) {c : γ} {a last : β} {rest all : List β}
    {s final : σ} (success : meetAll meet c a rest s = .ok (last, all, final)) :
    reading last = reading a ∧ all.map reading = rest.map reading := by
  induction rest generalizing a s all with
  | nil =>
    cases success
    exact ⟨rfl, rfl⟩
  | cons b rest ih =>
    obtain ⟨first, other, state, others, met, run, rfl⟩ := exists_of_meetAll_cons success
    obtain ⟨keptFirst, keptOther⟩ := keeps _ _ _ _ _ _ _ met
    obtain ⟨keptLast, keptOthers⟩ := ih run
    refine ⟨keptLast.trans keptFirst, ?_⟩
    rw [List.map_cons, List.map_cons, keptOther, keptOthers]

theorem map_forPairsFrom (keeps : MeetKeeps reading meet) {count : Nat} {elements all : List β}
    {s final : σ} (success : forPairsFrom anchor meet count elements s = .ok (all, final)) :
    all.map reading = elements.map reading := by
  induction count generalizing elements s all with
  | zero =>
    cases success
    rfl
  | succ count ih =>
    cases elements with
    | nil =>
      cases success
      rfl
    | cons a rest =>
      obtain ⟨first, others, state, last, met, run, rfl⟩ := exists_of_forPairsFrom_cons success
      obtain ⟨keptFirst, keptOthers⟩ := map_meetAll keeps met
      have keptLast := ih run
      rw [List.map_cons, List.map_cons, keptFirst, keptLast, keptOthers]

/-- What no meeting changes is the same after every element has met every later one. -/
theorem map_forPairs (keeps : MeetKeeps reading meet) {elements all : List β} {s final : σ}
    (success : forPairs anchor meet elements s = .ok (all, final)) :
    all.map reading = elements.map reading :=
  map_forPairsFrom keeps success

end Keeping

section Balancing

variable {M : Type} [AddCommMonoid M] {weight : β → M}

/-- What two elements weigh together is not changed by any meeting. -/
def MeetBalances (weight : β → M) (meet : γ → β → β → σ → Except ε (β × β × σ)) : Prop :=
  ∀ c a b s a' b' s', meet c a b s = .ok (a', b', s') →
    weight a' + weight b' = weight a + weight b

theorem sum_meetAll (balances : MeetBalances weight meet) {c : γ} {a last : β} {rest all : List β}
    {s final : σ} (success : meetAll meet c a rest s = .ok (last, all, final)) :
    weight last + (all.map weight).sum = weight a + (rest.map weight).sum := by
  induction rest generalizing a s all with
  | nil =>
    cases success
    rfl
  | cons b rest ih =>
    obtain ⟨first, other, state, others, met, run, rfl⟩ := exists_of_meetAll_cons success
    have pair := balances _ _ _ _ _ _ _ met
    calc weight last + ((other :: others).map weight).sum
        = weight other + (weight last + (others.map weight).sum) := by
          rw [List.map_cons, List.sum_cons, add_left_comm]
      _ = weight other + (weight first + (rest.map weight).sum) := by rw [ih run]
      _ = weight a + weight b + (rest.map weight).sum := by
          rw [← add_assoc, add_comm (weight other), pair]
      _ = weight a + ((b :: rest).map weight).sum := by
          rw [List.map_cons, List.sum_cons, add_assoc]

theorem sum_forPairsFrom (balances : MeetBalances weight meet) {count : Nat} {elements all : List β}
    {s final : σ} (success : forPairsFrom anchor meet count elements s = .ok (all, final)) :
    (all.map weight).sum = (elements.map weight).sum := by
  induction count generalizing elements s all with
  | zero =>
    cases success
    rfl
  | succ count ih =>
    cases elements with
    | nil =>
      cases success
      rfl
    | cons a rest =>
      obtain ⟨first, others, state, last, met, run, rfl⟩ := exists_of_forPairsFrom_cons success
      rw [List.map_cons, List.sum_cons, ih run, sum_meetAll balances met, List.map_cons,
        List.sum_cons]

/-- What no meeting changes about the sum of the two is the same for the sum of the list after every
element has met every later one. -/
theorem sum_forPairs (balances : MeetBalances weight meet) {elements all : List β} {s final : σ}
    (success : forPairs anchor meet elements s = .ok (all, final)) :
    (all.map weight).sum = (elements.map weight).sum :=
  sum_forPairsFrom balances success

end Balancing

end SiteAtlas
