import SiteAtlas.Proofs.Schema.TaggedFields
import SiteAtlas.Proofs.Text.Lines

/-! # Counting line by line

Each line adds to the counts what it is counted as on its own, in the block that it stands in. So
what is counted behind a line depends on the lines up to there only through the block that is open
and through what was counted already.
-/

namespace SiteAtlas.Schema

open Text

/-! ## Counting on -/

/-- What the marks on a line are counted as. -/
inductive Count where
  | primaryKeys
  | unique
  | relations
  | uniqueConstraints
  | indexes
  | indexed

/-- One of the counts. -/
def Tally.count (t : Tally) : Count → Nat
  | .primaryKeys => t.primaryKeys
  | .unique => t.unique
  | .relations => t.relations.length
  | .uniqueConstraints => t.uniqueConstraints
  | .indexes => t.indexes
  | .indexed => t.indexed

namespace Tally

/-- Nothing counted yet, in the block that the next line belongs to. -/
def fresh (t : Tally) : Tally := { context := t.context }

theorem count_fresh (t : Tally) (c : Count) : t.fresh.count c = 0 := by cases c <;> rfl

/-- What is passed over adds nothing. -/
theorem count_eq_add_fresh (t : Tally) (c : Count) : t.count c = t.count c + t.fresh.count c := by
  have none := t.count_fresh c
  omega

section Inside

variable (t : Tally) (block : String) (line : List Char) (c : Count)

theorem count_addAttribute :
    (t.addAttribute line).count c = t.count c + (t.fresh.addAttribute line).count c := by
  cases c with
  | unique | relations => rfl
  | _ => exact congrArg (_ + ·) (Nat.zero_add _).symm

theorem count_addField (parts : FieldLine) : (t.addField block line parts).count c =
    t.count c + (t.fresh.addField block line parts).count c := by
  cases c with
  | uniqueConstraints | indexes | indexed => rfl
  | primaryKeys | unique => exact congrArg (_ + ·) (Nat.zero_add _).symm
  | relations =>
    simp only [count, relations_addField]
    cases isTagged line <;> simp [fresh]

/-- A line inside of a block adds to each count what it is counted as on its own. -/
theorem count_addInside (kind : BlockKind) : (t.addInside kind block line).count c =
    t.count c + (t.fresh.addInside kind block line).count c := by
  have nothing := t.count_eq_add_fresh c
  have ofFields : (t.addInside .model block line).count c =
      t.count c + (t.fresh.addInside .model block line).count c := by
    unfold addInside
    dsimp only
    split
    · apply count_addAttribute
    · cases fieldLine? line with
      | none => exact nothing
      | some parts => apply count_addField
  cases kind with
  | model | view | type => exact ofFields
  | enum => exact nothing
  | datasource =>
    unfold addInside
    cases provider? line <;> cases c <;> exact nothing
  | generator =>
    unfold addInside
    cases provider? line <;> cases c <;> exact nothing

theorem context_addInside (kind : BlockKind) :
    (t.addInside kind block line).context = t.context := by
  unfold addInside
  split
  · split <;> rfl
  · split <;> rfl
  · rfl
  · split
    · rfl
    · split <;> rfl

end Inside

/-- A line adds to each count what it is counted as on its own, and the block that the next line
belongs to depends on nothing else. -/
theorem count_addLine (t : Tally) (line : List Char) :
    (t.addLine line).context = (t.fresh.addLine line).context ∧
    ∀ c, (t.addLine line).count c = t.count c + (t.fresh.addLine line).count c := by
  have nothing (c : Count) := t.count_eq_add_fresh c
  unfold addLine
  split
  · exact ⟨rfl, nothing⟩
  · cases header? line with
    | some header =>
      obtain ⟨kind, name⟩ := header
      cases kind <;> exact ⟨rfl, fun c => by cases c <;> rfl⟩
    | none =>
      dsimp only
      split
      · exact ⟨rfl, fun c => by cases c <;> rfl⟩
      · have same : t.fresh.context = t.context := rfl
        rw [same]
        cases t.context with
        | none => exact ⟨rfl, nothing⟩
        | some block =>
          obtain ⟨kind, name⟩ := block
          constructor
          · rw [context_addInside, context_addInside]
            rfl
          · intro c
            apply count_addInside

/-- Lines are counted behind others as on their own. -/
theorem count_foldl_addLine (lines : List (List Char)) (t : Tally) (c : Count) :
    (lines.foldl addLine t).count c = t.count c + (lines.foldl addLine t.fresh).count c := by
  induction lines generalizing t with
  | nil => exact t.count_eq_add_fresh c
  | cons line rest ih =>
    obtain ⟨sameBlock, counted⟩ := t.count_addLine line
    have sameFresh : (t.addLine line).fresh = (t.fresh.addLine line).fresh := by
      rw [fresh, fresh, sameBlock]
    have here := counted c
    have behind := ih (t.addLine line)
    have behindAlone := ih (t.fresh.addLine line)
    rw [sameFresh] at behind
    rw [List.foldl_cons, List.foldl_cons]
    omega

/-- The counts stand in the document of a tally. -/
theorem count_eq_of_payload_eq {t t' : Tally} (same : t.payload = t'.payload) (c : Count) :
    t.count c = t'.count c := by
  have whole {m n : Nat} : Value.count m = Value.count n ↔ m = n := by
    rw [Value.count, Value.count, Value.number.injEq, Number.whole.injEq, Int.natCast_inj]
  simp only [payload, List.cons.injEq, Prod.mk.injEq, Value.table.injEq, whole, true_and,
    and_true] at same
  obtain ⟨⟨-, -, -, -, ⟨relations, -⟩, ⟨-, -, -, unique, indexed⟩, -, -, -, primaryKeys,
    uniqueConstraints, indexes⟩, -⟩ := same
  cases c with
  | primaryKeys => exact primaryKeys
  | unique => exact unique
  | relations => exact relations
  | uniqueConstraints => exact uniqueConstraints
  | indexes => exact indexes
  | indexed => exact indexed

end Tally

/-! ## Lines of a text -/

/-- The lines behind a line are counted on from what was counted with it. -/
theorem tally_frame {before after line : List Char} (frame : IsLineFrame before after)
    (unbroken : ∀ c ∈ line, isLineBreak c = false) :
    tally (String.ofList (before ++ line ++ after)) = ((lines after).map trim).foldl Tally.addLine
      ((tally (String.ofList before)).addLine (trim line)) := by
  let step (t : Tally) (line : List Char) : Tally := t.addLine (trim line)
  have skips (t : Tally) : step t [] = t := rfl
  have read (text : List Char) (t : Tally) :
      ((lines text).map trim).foldl Tally.addLine t = (lines text).foldl step t := List.foldl_map
  rw [tally, tally, String.toList_ofList, String.toList_ofList, read, read, read,
    frame.foldl_lines step skips unbroken]

end SiteAtlas.Schema
