import SiteAtlas.Text.Basic
import Mathlib.Data.List.DropRight

/-! # What the text functions cut off

Laws of the functions that take texts apart, each as an equation about the whole text.
-/

namespace SiteAtlas.Text

theorem after?_eq_some_iff {start text rest : List Char} :
    after? start text = some rest ↔ text = start ++ rest := by
  induction start generalizing text with
  | nil => simp only [after?, Option.some.injEq, List.nil_append]
  | cons s start ih =>
    cases text with
    | nil => simp only [after?, reduceCtorEq, List.cons_append]
    | cons c text =>
      by_cases same : s = c
      · subst same
        simp only [after?, ↓reduceIte, ih, List.cons_append, List.cons.injEq, true_and]
      · simp only [after?, same, ↓reduceIte, reduceCtorEq, List.cons_append, List.cons.injEq,
          Ne.symm same, false_and]

/-- Whether a text begins with another is decided in front of a character that is not in it. -/
theorem after?_append_stop {start : List Char} {stop : Char} (free : stop ∉ start)
    (front behind : List Char) : after? start (front ++ stop :: behind) =
      (after? start front).map (· ++ stop :: behind) := by
  induction start generalizing front with
  | nil => rfl
  | cons s start ih =>
    obtain ⟨other, free⟩ := not_or.mp (mt List.mem_cons.mpr free)
    cases front with
    | nil => exact if_neg (Ne.symm other)
    | cons c front =>
      rw [List.cons_append, after?, after?]
      by_cases same : s = c
      · rw [if_pos same, if_pos same, ih free]
      · rw [if_neg same, if_neg same]
        rfl

theorem isSome_after?_iff {start text : List Char} :
    (after? start text).isSome = true ↔ start <+: text := by
  rw [Option.isSome_iff_exists]
  constructor
  · rintro ⟨rest, found⟩
    exact ⟨rest, (after?_eq_some_iff.mp found).symm⟩
  · rintro ⟨rest, rfl⟩
    exact ⟨rest, after?_eq_some_iff.mpr rfl⟩

theorem endsWith_iff {piece text : List Char} : endsWith piece text = true ↔ piece <:+ text := by
  rw [endsWith, isSome_after?_iff, List.reverse_prefix]

theorem contains_iff {piece text : List Char} : contains piece text = true ↔ piece <:+: text := by
  induction text with
  | nil => rw [contains, List.isEmpty_iff, List.infix_nil]
  | cons c rest ih => rw [contains, Bool.or_eq_true, isSome_after?_iff, ih, List.infix_cons_iff]

section Infix

variable {piece front behind : List Char} {stop : Char} (free : stop ∉ piece)
include free

theorem prefix_append_cons_iff : piece <+: front ++ stop :: behind ↔ piece <+: front := by
  rw [← isSome_after?_iff, ← isSome_after?_iff, after?_append_stop free, Option.isSome_map]

/-- A piece stands in front of a character that is not in it, or behind it. -/
theorem infix_append_cons_iff :
    piece <:+: front ++ stop :: behind ↔ piece <:+: front ∨ piece <:+: behind := by
  induction front with
  | nil =>
    have here : piece <+: [] ++ stop :: behind ↔ piece <+: [] := prefix_append_cons_iff free
    rw [List.nil_append] at here ⊢
    rw [List.infix_cons_iff, here, List.prefix_nil, List.infix_nil]
  | cons c front ih =>
    rw [List.cons_append, List.infix_cons_iff, List.infix_cons_iff, ih, ← List.cons_append,
      prefix_append_cons_iff free, or_assoc]

theorem infix_cons_iff_of_notMem (filled : piece ≠ []) :
    piece <:+: stop :: behind ↔ piece <:+: behind := by
  have either : piece <:+: [] ++ stop :: behind ↔ piece <:+: [] ∨ piece <:+: behind :=
    infix_append_cons_iff free
  rw [List.nil_append, List.infix_nil] at either
  exact either.trans (or_iff_right filled)

end Infix

theorem head?_dropWhile_ne (mark : Char) (text : List Char) :
    (text.dropWhile (· == mark)).head? ≠ some mark := by
  intro first
  have other := List.head?_dropWhile_not (· == mark) text
  rw [first] at other
  exact absurd other (by simp)

/-- Nothing is taken off a text that neither begins nor ends with the character. -/
theorem stripChar_eq_self {mark : Char} {text : List Char} (first : text.head? ≠ some mark)
    (last : text.getLast? ≠ some mark) : stripChar mark text = text := by
  have keeps (chars : List Char) (other : chars.head? ≠ some mark) :
      chars.dropWhile (· == mark) = chars := by
    cases chars with
    | nil => rfl
    | cons c rest =>
      have differs : c ≠ mark := fun same => other (by rw [List.head?_cons, same])
      rw [List.dropWhile_cons_of_neg (by simpa using differs)]
  rw [stripChar, keeps text first, keeps text.reverse (by rwa [List.head?_reverse]),
    List.reverse_reverse]

/-- Marks in front of a text are taken off, and those behind it, whatever stands between. -/
theorem stripChar_padded {mark : Char} {core : List Char} (filled : core ≠ [])
    (first : core.head? ≠ some mark) (last : core.getLast? ≠ some mark) (front : Nat)
    (behind : List Char) : stripChar mark (List.replicate front mark ++ (core ++ behind)) =
      core ++ behind.rdropWhile (· == mark) := by
  have start : (List.replicate front mark ++ (core ++ behind)).dropWhile (· == mark) =
      core ++ behind := by
    rw [List.dropWhile_append_of_pos (by simp)]
    obtain ⟨c, rest, rfl⟩ := List.exists_cons_of_ne_nil filled
    have differs : c ≠ mark := fun same => first (by rw [List.head?_cons, same])
    rw [List.cons_append, List.dropWhile_cons_of_neg (by simpa using differs)]
  have stays : core.reverse.dropWhile (· == mark) = core.reverse := by
    obtain ⟨c, rest, reversed⟩ := List.exists_cons_of_ne_nil (mt List.reverse_eq_nil_iff.mp filled)
    have differs : c ≠ mark := by
      rintro rfl
      exact last (by rw [← List.head?_reverse, reversed, List.head?_cons])
    rw [reversed, List.dropWhile_cons_of_neg (by simpa using differs)]
  rw [stripChar, start, List.reverse_append, List.dropWhile_append, stays, List.rdropWhile]
  split
  next none =>
    rw [List.isEmpty_iff.mp none, List.reverse_nil, List.append_nil, List.reverse_reverse]
  next => rw [List.reverse_append, List.reverse_reverse]

/-- A text is what is left of it between marks. -/
theorem exists_padded (mark : Char) (text : List Char) : ∃ front back,
    text = List.replicate front mark ++ (stripChar mark text ++ List.replicate back mark) ∧
      (stripChar mark text).head? ≠ some mark ∧ (stripChar mark text).getLast? ≠ some mark := by
  have marks (chars : List Char) : chars.takeWhile (· == mark) =
      List.replicate (chars.takeWhile (· == mark)).length mark := by
    refine List.eq_replicate_of_mem fun c member => ?_
    exact beq_iff_eq.mp (List.all_eq_true.mp List.all_takeWhile c member)
  have rest : text.dropWhile (· == mark) = stripChar mark text ++
      List.replicate ((text.dropWhile (· == mark)).reverse.takeWhile (· == mark)).length mark := by
    have whole := congrArg List.reverse (List.takeWhile_append_dropWhile
      (p := (· == mark)) (l := (text.dropWhile (· == mark)).reverse))
    rw [List.reverse_append, List.reverse_reverse, marks, List.reverse_replicate] at whole
    exact whole.symm
  refine ⟨(text.takeWhile (· == mark)).length,
    ((text.dropWhile (· == mark)).reverse.takeWhile (· == mark)).length, ?_, ?_, ?_⟩
  · rw [← rest, ← marks, List.takeWhile_append_dropWhile]
  · intro first
    refine head?_dropWhile_ne mark text ?_
    rw [rest, List.head?_append, first]
    rfl
  · rw [stripChar, List.getLast?_reverse]
    exact head?_dropWhile_ne mark _

section Intercalate

variable {sep : List Char} {pieces : List (List Char)} {first last : List Char}

theorem mem_of_mem_intercalate {c : Char} (member : c ∈ sep.intercalate pieces) :
    c ∈ sep ∨ ∃ piece ∈ pieces, c ∈ piece := by
  induction pieces with
  | nil => exact absurd member List.not_mem_nil
  | cons first rest ih =>
    cases rest with
    | nil =>
      rw [List.intercalate_singleton] at member
      exact .inr ⟨first, List.mem_cons_self, member⟩
    | cons second rest =>
      rw [List.intercalate_cons_cons, List.append_assoc, List.mem_append, List.mem_append] at member
      rcases member with member | member | member
      · exact .inr ⟨first, List.mem_cons_self, member⟩
      · exact .inl member
      · obtain inSep | ⟨piece, isPiece, member⟩ := ih member
        · exact .inl inSep
        · exact .inr ⟨piece, List.mem_cons_of_mem _ isPiece, member⟩

theorem mem_intercalate_of_mem {piece : List Char} {c : Char} (isPiece : piece ∈ pieces)
    (member : c ∈ piece) : c ∈ sep.intercalate pieces := by
  induction pieces with
  | nil => exact absurd isPiece List.not_mem_nil
  | cons first rest ih =>
    cases rest with
    | nil =>
      rw [List.intercalate_singleton, ← List.mem_singleton.mp isPiece]
      exact member
    | cons second rest =>
      rw [List.intercalate_cons_cons, List.mem_append]
      rcases List.mem_cons.mp isPiece with rfl | later
      · exact .inl (List.mem_append_left _ member)
      · exact .inr (ih later)

/-- One more piece behind the others. -/
theorem intercalate_concat (nonempty : pieces ≠ []) :
    sep.intercalate (pieces ++ [last]) = sep.intercalate pieces ++ (sep ++ last) := by
  induction pieces with
  | nil => exact absurd rfl nonempty
  | cons first rest ih =>
    cases rest with
    | nil =>
      rw [List.singleton_append, List.intercalate_cons_cons, List.intercalate_singleton,
        List.intercalate_singleton, List.append_assoc]
    | cons second rest =>
      rw [List.cons_append, List.cons_append, List.intercalate_cons_cons,
        List.intercalate_cons_cons, List.append_assoc, List.append_assoc, List.append_assoc,
        ← List.cons_append, ih (List.cons_ne_nil _ _)]

/-- A text joined from pieces begins like the first one, if that is not empty. -/
theorem head?_intercalate_cons (nonempty : first ≠ []) :
    (sep.intercalate (first :: pieces)).head? = first.head? := by
  obtain ⟨c, rest, rfl⟩ := List.exists_cons_of_ne_nil nonempty
  rw [List.intercalate_cons_cons_left, List.head?_cons, List.head?_cons]

/-- A text joined from pieces ends like the last one, if that is not empty. -/
theorem getLast?_intercalate (isLast : pieces.getLast? = some last) (nonempty : last ≠ []) :
    (sep.intercalate pieces).getLast? = last.getLast? := by
  induction pieces with
  | nil => cases isLast
  | cons first rest ih =>
    cases rest with
    | nil =>
      obtain rfl := Option.some.inj isLast
      rw [List.intercalate_singleton, List.getLast_singleton]
    | cons second rest =>
      rw [List.getLast?_cons_cons] at isLast
      obtain ⟨c, ends⟩ := Option.ne_none_iff_exists'.mp
        (mt List.getLast?_eq_none_iff.mp nonempty)
      rw [List.intercalate_cons_cons, List.getLast?_append, ih isLast, ends, Option.some_or]

end Intercalate

/-- A text cut at every mark leaves pieces without it. -/
theorem notMem_of_mem_splitOn {mark : Char} {text piece : List Char}
    (member : piece ∈ text.splitOn mark) : mark ∉ piece := by
  induction text generalizing piece with
  | nil =>
    rw [List.splitOn_nil, List.mem_singleton] at member
    exact member ▸ List.not_mem_nil
  | cons c rest ih =>
    rw [List.splitOn_cons_eq_if_modifyHead] at member
    split at member
    next => exact (List.mem_cons.mp member).elim (fun first => first ▸ List.not_mem_nil) ih
    next other =>
      obtain ⟨first, pieces, cut⟩ := List.exists_cons_of_ne_nil (List.splitOn_ne_nil mark rest)
      rw [cut] at member ih
      rcases List.mem_cons.mp member with rfl | member
      · rw [List.mem_cons, not_or]
        exact ⟨fun same => other (by simp [same]), ih List.mem_cons_self⟩
      · exact ih (List.mem_cons_of_mem _ member)

/-- A text can be cut in one way only at its last mark. -/
theorem append_cons_inj {mark : Char} {front front' back back' : List Char}
    (free : mark ∉ back) (free' : mark ∉ back') :
    front ++ mark :: back = front' ++ mark :: back' ↔ front = front' ∧ back = back' := by
  have longer {front front' back back' : List Char} (free : mark ∉ back) {more : List Char}
      (fronts : front' = front ++ more) (backs : mark :: back = more ++ mark :: back') :
      front = front' ∧ back = back' := by
    cases more with
    | nil => exact ⟨(fronts.trans (List.append_nil _)).symm, (List.cons.inj backs).2⟩
    | cons c more =>
      rw [(List.cons.inj backs).2] at free
      exact absurd (List.mem_append_right _ List.mem_cons_self) free
  constructor
  · intro same
    rcases List.append_eq_append_iff.mp same with ⟨more, fronts, backs⟩ | ⟨more, fronts, backs⟩
    · exact longer free fronts backs
    · exact (longer free' fronts backs).imp Eq.symm Eq.symm
  · rintro ⟨rfl, rfl⟩
    rfl

/-- A text can be cut in one way only at its first mark. -/
theorem append_cons_inj_of_front {mark : Char} {front front' back back' : List Char}
    (free : mark ∉ front) (free' : mark ∉ front') :
    front ++ mark :: back = front' ++ mark :: back' ↔ front = front' ∧ back = back' := by
  have turned (front back : List Char) :
      (front ++ mark :: back).reverse = back.reverse ++ mark :: front.reverse := by simp
  rw [← List.reverse_inj, turned, turned,
    append_cons_inj (by rwa [List.mem_reverse]) (by rwa [List.mem_reverse]), List.reverse_inj,
    List.reverse_inj, and_comm]

end SiteAtlas.Text
