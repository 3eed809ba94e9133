import Mathlib.Order.Bounds.Defs
import Phrasebook.Titling.Suggestion

/-!
# Distances between texts

A distance is computed row by row, where a row belongs to a beginning of the text and has an entry
for each beginning of the target. The entries satisfy the recursion for the fewest edits between two
texts, read from their ends (`Suggestion.distance_eq_fewest_reverse`). The recursion does give the
least number of edits (`Suggestion.isLeast_fewest`), which is the same for texts read backwards. So
the distance is that number and has the laws of a metric (`Suggestion.distance_laws`).
-/

namespace Phrasebook.Suggestion

/-! ## Edits -/

inductive Edit : List Char → List Char → Prop where
  | insert (front back : List Char) (char : Char) : Edit (front ++ back) (front ++ char :: back)
  | delete (front back : List Char) (char : Char) : Edit (front ++ char :: back) (front ++ back)
  | replace (front back : List Char) (char other : Char) :
      Edit (front ++ char :: back) (front ++ other :: back)

inductive Edits : Nat → List Char → List Char → Prop where
  | none (text : List Char) : Edits 0 text text
  | step {count : Nat} {text middle target : List Char} (edit : Edit text middle)
      (further : Edits count middle target) : Edits (count + 1) text target

variable {text middle target : List Char} {count : Nat}

theorem Edit.symm (edit : Edit text target) : Edit target text := by
  cases edit with
  | insert front back char => exact .delete front back char
  | delete front back char => exact .insert front back char
  | replace front back char other => exact .replace front back other char

theorem Edit.cons (edit : Edit text target) (char : Char) :
    Edit (char :: text) (char :: target) := by
  cases edit with
  | insert front back inserted => exact .insert (char :: front) back inserted
  | delete front back deleted => exact .delete (char :: front) back deleted
  | replace front back former other => exact .replace (char :: front) back former other

theorem Edit.reverse (edit : Edit text target) : Edit text.reverse target.reverse := by
  cases edit <;> simp only [List.reverse_append, List.reverse_cons, List.append_assoc,
    List.singleton_append]
  · exact .insert _ _ _
  · exact .delete _ _ _
  · exact .replace _ _ _ _

namespace Edits

theorem trans {further : Nat} (edits : Edits count text middle)
    (others : Edits further middle target) : Edits (count + further) text target := by
  induction edits with
  | none text => rwa [Nat.zero_add]
  | step edit _ ih =>
    rw [Nat.add_right_comm]
    exact .step edit (ih others)

theorem symm (edits : Edits count text target) : Edits count target text := by
  induction edits with
  | none text => exact .none text
  | step edit _ ih => exact ih.trans (.step edit.symm (.none _))

theorem cons (edits : Edits count text target) (char : Char) :
    Edits count (char :: text) (char :: target) := by
  induction edits with
  | none text => exact .none _
  | step edit _ ih => exact .step (edit.cons char) ih

theorem reverse (edits : Edits count text target) : Edits count text.reverse target.reverse := by
  induction edits with
  | none text => exact .none _
  | step edit _ ih => exact .step edit.reverse ih

theorem least {further : Nat} (edits : Edits count text target)
    (others : Edits further text target) : Edits (min count further) text target := by
  rcases Nat.le_total count further with fewer | fewer
  · rwa [Nat.min_eq_left fewer]
  · rwa [Nat.min_eq_right fewer]

theorem insertAll (text : List Char) : Edits text.length [] text := by
  induction text with
  | nil => exact .none []
  | cons char rest ih => exact ih.trans (.step (.insert [] rest char) (.none _))

end Edits

/-! ## The fewest edits -/

def cost (char other : Char) : Nat := if char = other then 0 else 1

theorem cost_le_one (char other : Char) : cost char other ≤ 1 := by
  unfold cost
  split <;> decide

def fewest : List Char → List Char → Nat
  | [], target => target.length
  | text, [] => text.length
  | char :: text, other :: target =>
    min (min (fewest text target + cost char other) (fewest text (other :: target) + 1))
      (fewest (char :: text) target + 1)
termination_by text target => text.length + target.length

@[simp] theorem fewest_nil_left (target : List Char) : fewest [] target = target.length := by
  rw [fewest]

@[simp] theorem fewest_nil_right (text : List Char) : fewest text [] = text.length := by
  cases text <;> simp [fewest]

theorem fewest_cons_cons (char other : Char) (text target : List Char) :
    fewest (char :: text) (other :: target) =
      min (min (fewest text target + cost char other) (fewest text (other :: target) + 1))
        (fewest (char :: text) target + 1) := by
  rw [fewest]

theorem edits_fewest (text target : List Char) : Edits (fewest text target) text target := by
  fun_induction fewest text target with
  | case1 target => exact .insertAll target
  | case2 text => exact (Edits.insertAll text).symm
  | case3 char text other target matched deleted inserted =>
    have matching : Edits (fewest text target + cost char other) (char :: text)
        (other :: target) := by
      unfold cost
      split
      · rename_i same
        exact same ▸ matched.cons char
      · exact (matched.cons char).trans (.step (.replace [] target char other) (.none _))
    have deleting : Edits (fewest text (other :: target) + 1) (char :: text) (other :: target) :=
      .step (.delete [] text char) deleted
    have inserting : Edits (fewest (char :: text) target + 1) (char :: text) (other :: target) :=
      inserted.trans (.step (.insert [] target other) (.none _))
    exact (matching.least deleting).least inserting

/-! ## One edit changes the fewest by at most one -/

theorem fewest_cons_le (char : Char) (text target : List Char) :
    fewest (char :: text) target ≤ fewest text target + 1 := by
  cases target with
  | nil => simp
  | cons other target =>
    rw [fewest_cons_cons]
    omega

theorem fewest_le_cons_right (other : Char) (text target : List Char) :
    fewest text (other :: target) ≤ fewest text target + 1 := by
  cases text with
  | nil => simp
  | cons char text =>
    rw [fewest_cons_cons]
    omega

theorem fewest_le_cons (char : Char) (text target : List Char) :
    fewest text target ≤ fewest (char :: text) target + 1 := by
  induction target with
  | nil =>
    rw [fewest_nil_right, fewest_nil_right, List.length_cons]
    omega
  | cons other target ih =>
    have further := fewest_le_cons_right other text target
    rw [fewest_cons_cons]
    omega

theorem fewest_cons_le_of_forall {text further : List Char} {char other : Char}
    (near : ∀ target next, fewest text target + cost char next ≤
      fewest further target + cost other next + 1)
    (beside : ∀ target, fewest text target ≤ fewest further target + 1) (target : List Char) :
    fewest (char :: text) target ≤ fewest (other :: further) target + 1 := by
  induction target with
  | nil => simpa using beside []
  | cons next target ih =>
    have matched := near target next
    have deleted := beside (next :: target)
    rw [fewest_cons_cons, fewest_cons_cons]
    omega

theorem fewest_append_le {text further : List Char}
    (near : ∀ target, fewest text target ≤ fewest further target + 1) (front target : List Char) :
    fewest (front ++ text) target ≤ fewest (front ++ further) target + 1 := by
  induction front generalizing target with
  | nil => exact near target
  | cons char front ih =>
    refine fewest_cons_le_of_forall (fun target next => ?_) ih target
    have matched := ih target
    omega

theorem fewest_le_of_edit (edit : Edit text middle) (target : List Char) :
    fewest text target ≤ fewest middle target + 1 := by
  cases edit with
  | insert front back char => exact fewest_append_le (fewest_le_cons char back) front target
  | delete front back char => exact fewest_append_le (fewest_cons_le char back) front target
  | replace front back char other =>
    refine fewest_append_le (fewest_cons_le_of_forall (fun target next => ?_) ?_) front target
    · have least := cost_le_one char next
      omega
    · exact fun target => Nat.le_succ _

theorem fewest_self (text : List Char) : fewest text text = 0 := by
  induction text with
  | nil => exact fewest_nil_left []
  | cons char rest ih =>
    have free : cost char char = 0 := if_pos rfl
    rw [fewest_cons_cons, ih, free]
    omega

theorem fewest_le_of_edits (edits : Edits count text target) : fewest text target ≤ count := by
  induction edits with
  | none text => exact Nat.le_of_eq (fewest_self text)
  | step edit _ ih => exact Nat.le_trans (fewest_le_of_edit edit _) (Nat.add_le_add_right ih 1)

theorem isLeast_fewest (text target : List Char) :
    IsLeast {count | Edits count text target} (fewest text target) :=
  ⟨edits_fewest text target, fun _ edits => fewest_le_of_edits edits⟩

/-! ## Laws of the fewest edits -/

theorem fewest_eq_of_edits_iff {other goal : List Char}
    (same : ∀ count, Edits count text target ↔ Edits count other goal) :
    fewest text target = fewest other goal := by
  have there := fewest_le_of_edits ((same _).1 (edits_fewest text target))
  have back := fewest_le_of_edits ((same _).2 (edits_fewest other goal))
  exact Nat.le_antisymm back there

theorem fewest_comm (text target : List Char) : fewest target text = fewest text target :=
  fewest_eq_of_edits_iff fun _ => ⟨Edits.symm, Edits.symm⟩

theorem fewest_reverse (text target : List Char) :
    fewest text.reverse target.reverse = fewest text target := by
  refine fewest_eq_of_edits_iff fun count => ⟨fun edits => ?_, Edits.reverse⟩
  have again := edits.reverse
  rwa [List.reverse_reverse, List.reverse_reverse] at again

theorem fewest_eq_zero_iff : fewest text target = 0 ↔ text = target := by
  constructor
  · intro zero
    have edits := edits_fewest text target
    rw [zero] at edits
    cases edits
    rfl
  · rintro rfl
    exact fewest_self text

theorem fewest_triangle (text middle target : List Char) :
    fewest text target ≤ fewest text middle + fewest middle target :=
  fewest_le_of_edits ((edits_fewest text middle).trans (edits_fewest middle target))

/-! ## Rows -/

/-- The row of a beginning of the text, from a beginning of the target on. Both are read backwards,
so that their last characters come first. -/
def row (before passed : List Char) : List Char → List Nat
  | [] => [fewest before passed]
  | char :: rest => fewest before passed :: row before (char :: passed) rest

theorem row_eq_cons (before passed rest : List Char) :
    row before passed rest = fewest before passed :: (row before passed rest).tail := by
  cases rest <;> rfl

theorem range'_eq_row (passed rest : List Char) :
    List.range' passed.length (rest.length + 1) = row [] passed rest := by
  induction rest generalizing passed with
  | nil => simp [row]
  | cons char rest ih =>
    rw [row, fewest_nil_left, ← ih (char :: passed), List.length_cons, List.range'_succ,
      List.length_cons]

theorem getLast?_row (before passed rest : List Char) :
    (row before passed rest).getLast? = some (fewest before (rest.reverse ++ passed)) := by
  induction rest generalizing passed with
  | nil => rfl
  | cons char rest ih =>
    rw [row, row_eq_cons, List.getLast?_cons_cons, ← row_eq_cons, ih, List.reverse_cons,
      List.append_assoc, List.singleton_append]

theorem rowFrom_row (char : Char) (before passed rest : List Char) :
    rowFrom char (fewest (char :: before) passed) (fewest before passed)
      (row before passed rest).tail rest = (row (char :: before) passed rest).tail := by
  induction rest generalizing passed with
  | nil => rfl
  | cons other rest ih =>
    -- The entry is the recursion at the two last characters, and the left neighbour of the next.
    have entry : min (min (fewest before passed + cost char other)
        (fewest before (other :: passed) + 1)) (fewest (char :: before) passed + 1) =
          fewest (char :: before) (other :: passed) := (fewest_cons_cons ..).symm
    rw [row, List.tail_cons, row_eq_cons, rowFrom, ← cost, entry, ih, ← row_eq_cons]
    rfl

theorem nextRow_row (target : List Char) (before : List Char) (char : Char) :
    nextRow target (row before [] target) char = row (char :: before) [] target := by
  have further := rowFrom_row char before [] target
  rw [row_eq_cons, row_eq_cons (char :: before), nextRow, ← further]
  simp

theorem foldl_nextRow (target text before : List Char) :
    text.foldl (nextRow target) (row before [] target) = row (text.reverse ++ before) [] target := by
  induction text generalizing before with
  | nil => rfl
  | cons char rest ih =>
    rw [List.foldl_cons, nextRow_row, ih, List.reverse_cons, List.append_assoc,
      List.singleton_append]

theorem distance_eq_fewest_reverse (text target : List Char) :
    distance text target = fewest text.reverse target.reverse := by
  have first : List.range (target.length + 1) = row [] [] target := by
    rw [List.range_eq_range']
    exact range'_eq_row [] target
  rw [distance, first, foldl_nextRow, getLast?_row, List.append_nil, List.append_nil,
    Option.getD_some]

theorem distance_eq_fewest (text target : List Char) :
    distance text target = fewest text target :=
  (distance_eq_fewest_reverse text target).trans (fewest_reverse text target)

/-- The distance is the fewest edits that turn one text into the other, found by recursion over
their characters. So it is the same in both directions, zero for equal texts only, and no way over a
third text is shorter. -/
theorem distance_laws (text target : List Char) :
    distance text target = fewest text target ∧
    IsLeast {count | Edits count text target} (distance text target) ∧
    distance target text = distance text target ∧
    (distance text target = 0 ↔ text = target) ∧
    ∀ middle, distance text target ≤ distance text middle + distance middle target := by
  refine ⟨distance_eq_fewest text target, ?_⟩
  simp only [distance_eq_fewest]
  exact ⟨isLeast_fewest text target, fewest_comm text target, fewest_eq_zero_iff,
    fun middle => fewest_triangle text middle target⟩

example : distance "kitten".toList "sitting".toList = 3 := by decide

end Phrasebook.Suggestion
