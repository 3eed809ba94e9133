import Phrasebook.Text.Bytes

namespace Phrasebook.Text

theorem byteLength_eq_zero_iff {text : List Char} : byteLength text = 0 ↔ text = [] := by
  cases text with
  | nil => simp
  | cons char rest =>
    have positive : 0 < char.utf8Size := char.utf8Size_pos
    simp only [byteLength_cons, reduceCtorEq, iff_false]
    omega

@[simp] theorem dropBytes?_zero (text : List Char) : dropBytes? 0 text = some text := by
  cases text <;> rfl

@[simp] theorem takeBytes?_zero (text : List Char) : takeBytes? 0 text = some [] := by
  cases text <;> rfl

@[simp] theorem byteLength_reverse (text : List Char) :
    byteLength text.reverse = byteLength text := by
  induction text with
  | nil => rfl
  | cons char rest ih =>
    rw [List.reverse_cons, byteLength_append, ih, byteLength_cons, byteLength_cons]
    simp [Nat.add_comm]

theorem dropBytes?_eq_some_iff {count : Nat} {text rest : List Char} :
    dropBytes? count text = some rest ↔
      ∃ front, text = front ++ rest ∧ byteLength front = count := by
  induction text generalizing count with
  | nil => cases count <;> simp [dropBytes?, and_assoc, eq_comm]
  | cons char behind ih =>
    cases count with
    | zero => simp [byteLength_eq_zero_iff]
    | succ count =>
      rw [dropBytes?]
      constructor
      · intro dropped
        split at dropped
        · rename_i fits
          obtain ⟨front, rfl, size⟩ := ih.1 dropped
          refine ⟨char :: front, rfl, ?_⟩
          rw [byteLength_cons, size]
          omega
        · cases dropped
      · rintro ⟨front, split, size⟩
        cases front with
        | nil => cases size
        | cons first front =>
          obtain ⟨rfl, rfl⟩ := List.cons.inj split
          rw [byteLength_cons] at size
          rw [if_pos (by omega)]
          exact ih.2 ⟨front, rfl, by omega⟩

theorem takeBytes?_zero_eq_some_iff {text part : List Char} :
    takeBytes? 0 text = some part ↔ ∃ rest, text = part ++ rest ∧ byteLength part = 0 := by
  simp only [takeBytes?_zero, Option.some.injEq, byteLength_eq_zero_iff]
  constructor
  · rintro rfl
    exact ⟨text, rfl, rfl⟩
  · rintro ⟨_, _, rfl⟩
    rfl

theorem takeBytes?_eq_some_iff {count : Nat} {text part : List Char} :
    takeBytes? count text = some part ↔ ∃ rest, text = part ++ rest ∧ byteLength part = count := by
  induction text generalizing count part with
  | nil =>
    cases count with
    | zero => exact takeBytes?_zero_eq_some_iff
    | succ count => simp +contextual [takeBytes?]
  | cons char behind ih =>
    cases count with
    | zero => exact takeBytes?_zero_eq_some_iff
    | succ count =>
      rw [takeBytes?]
      constructor
      · intro taken
        split at taken
        · rename_i fits
          obtain ⟨inner, found, rfl⟩ := Option.map_eq_some_iff.1 taken
          obtain ⟨rest, rfl, size⟩ := ih.1 found
          refine ⟨rest, rfl, ?_⟩
          rw [byteLength_cons, size]
          omega
        · cases taken
      · rintro ⟨rest, split, size⟩
        cases part with
        | nil => cases size
        | cons first part =>
          obtain ⟨rfl, rfl⟩ := List.cons.inj split
          rw [byteLength_cons] at size
          rw [if_pos (by omega), ih.2 ⟨rest, rfl, by omega⟩, Option.map_some]

theorem slice?_eq_some_iff {start stop : Nat} {text part : List Char} :
    slice? start stop text = some part ↔
      ∃ front back, text = front ++ (part ++ back) ∧ byteLength front = start ∧
        start + byteLength part = stop := by
  rw [slice?]
  constructor
  · intro sliced
    split at sliced
    · rename_i ordered
      obtain ⟨behind, dropped, taken⟩ := Option.bind_eq_some_iff.1 sliced
      obtain ⟨front, rfl, before⟩ := dropBytes?_eq_some_iff.1 dropped
      obtain ⟨back, rfl, size⟩ := takeBytes?_eq_some_iff.1 taken
      exact ⟨front, back, rfl, before, by omega⟩
    · cases sliced
  · rintro ⟨front, back, rfl, before, size⟩
    have dropped : dropBytes? start (front ++ (part ++ back)) = some (part ++ back) :=
      dropBytes?_eq_some_iff.2 ⟨front, rfl, before⟩
    rw [if_pos (by omega), dropped, Option.bind_some]
    exact takeBytes?_eq_some_iff.2 ⟨back, rfl, by omega⟩

theorem append_inj_of_byteLength_eq {front other rest others : List Char}
    (same : front ++ rest = other ++ others) (size : byteLength front = byteLength other) :
    front = other ∧ rest = others := by
  have behind : dropBytes? (byteLength front) (front ++ rest) = some rest :=
    dropBytes?_eq_some_iff.2 ⟨front, rfl, rfl⟩
  have otherwise : dropBytes? (byteLength front) (front ++ rest) = some others :=
    dropBytes?_eq_some_iff.2 ⟨other, same, size.symm⟩
  obtain rfl : rest = others := Option.some.inj (behind.symm.trans otherwise)
  exact ⟨List.append_cancel_right same, rfl⟩

theorem eq_of_split_inside_char {front rest before behind : List Char} {char : Char}
    (same : front ++ rest = before ++ char :: behind) (lower : byteLength before ≤ byteLength front)
    (upper : byteLength front < byteLength before + char.utf8Size) : front = before := by
  rcases List.append_eq_append_iff.1 same with ⟨added, rfl, -⟩ | ⟨added, rfl, split⟩
  · rw [byteLength_append] at lower
    have empty : added = [] := byteLength_eq_zero_iff.1 (by omega)
    rw [empty, List.append_nil]
  · cases added with
    | nil => exact List.append_nil before
    | cons first added =>
      obtain ⟨rfl, -⟩ := List.cons.inj split
      rw [byteLength_append, byteLength_cons] at upper
      omega

theorem slice?_append {start middle stop : Nat} {text first second : List Char}
    (before : slice? start middle text = some first)
    (behind : slice? middle stop text = some second) :
    slice? start stop text = some (first ++ second) := by
  obtain ⟨front, rest, rfl, atStart, toMiddle⟩ := slice?_eq_some_iff.1 before
  obtain ⟨others, back, split, atMiddle, toStop⟩ := slice?_eq_some_iff.1 behind
  rw [← List.append_assoc] at split
  have size : byteLength (front ++ first) = byteLength others := by
    rw [byteLength_append]
    omega
  obtain ⟨-, rfl⟩ := append_inj_of_byteLength_eq split size
  refine slice?_eq_some_iff.2 ⟨front, back, by rw [List.append_assoc], atStart, ?_⟩
  rw [byteLength_append]
  omega

/-- The spans cover the positions from `start` to `stop` in order, without gap or overlap. -/
def Tiles : (start stop : Nat) → List (Nat × Nat) → Prop
  | start, stop, [] => start = stop
  | start, stop, span :: rest => span.1 = start ∧ span.1 ≤ span.2 ∧ Tiles span.2 stop rest

theorem tiles_append {start stop : Nat} {spans others : List (Nat × Nat)} :
    Tiles start stop (spans ++ others) ↔
      ∃ middle, Tiles start middle spans ∧ Tiles middle stop others := by
  induction spans generalizing start with
  | nil => simp [Tiles]
  | cons span rest ih => simp [Tiles, ih, and_assoc]

theorem Tiles.le {start stop : Nat} {spans : List (Nat × Nat)} (tiled : Tiles start stop spans) :
    start ≤ stop := by
  induction spans generalizing start with
  | nil => exact Nat.le_of_eq tiled
  | cons span rest ih =>
    obtain ⟨rfl, ordered, rest⟩ := tiled
    exact Nat.le_trans ordered (ih rest)

theorem Tiles.getLast {start stop : Nat} {spans : List (Nat × Nat)}
    (tiled : Tiles start stop spans) (nonempty : spans ≠ []) :
    (spans.getLast nonempty).2 = stop := by
  induction spans generalizing start with
  | nil => exact absurd rfl nonempty
  | cons span rest ih =>
    cases rest with
    | nil => exact tiled.2.2
    | cons next rest =>
      rw [List.getLast_cons_cons]
      exact ih tiled.2.2 (List.cons_ne_nil next rest)

end Phrasebook.Text
