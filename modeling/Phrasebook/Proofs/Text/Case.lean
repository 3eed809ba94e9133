import Phrasebook.Text.Case

namespace Phrasebook.Text

def IsAscii (text : List Char) : Prop := ∀ char ∈ text, char.toNat < 128

instance (text : List Char) : Decidable (IsAscii text) :=
  List.decidableBAll (fun char : Char => char.toNat < 128) text

theorem forall_ascii (holds : Char → Prop) (all : ∀ code < 128, holds (Char.ofNat code))
    {char : Char} (ascii : char.toNat < 128) : holds char :=
  Char.ofNat_toNat char ▸ all char.toNat ascii

section Characters

variable {char : Char} (ascii : char.toNat < 128)
include ascii

theorem lowerChar_ascii : lowerChar char = [char.toLower] :=
  forall_ascii (fun char => lowerChar char = [char.toLower]) (by decide +kernel) ascii

theorem upperChar_ascii : upperChar char = [char.toUpper] :=
  forall_ascii (fun char => upperChar char = [char.toUpper]) (by decide +kernel) ascii

theorem isUpper_ascii : isUpper char = char.isUpper :=
  forall_ascii (fun char => isUpper char = char.isUpper) (by decide +kernel) ascii

theorem toLower_ascii : char.toLower.toNat < 128 ∧ char.toLower.isUpper = false ∧
    char.toLower.toLower = char.toLower :=
  forall_ascii (fun char => char.toLower.toNat < 128 ∧ char.toLower.isUpper = false ∧
    char.toLower.toLower = char.toLower) (by decide +kernel) ascii

theorem toUpper_ascii : char.toUpper.toNat < 128 ∧ char.toUpper.toLower = char.toLower ∧
    char.toUpper.toUpper = char.toUpper :=
  forall_ascii (fun char => char.toUpper.toNat < 128 ∧
    char.toUpper.toLower = char.toLower ∧ char.toUpper.toUpper = char.toUpper)
    (by decide +kernel) ascii

end Characters

theorem flatMap_lowerChar_ascii {text : List Char} (ascii : IsAscii text) :
    text.flatMap lowerChar = text.map Char.toLower := by
  induction text with
  | nil => rfl
  | cons char rest ih =>
    have both := List.forall_mem_cons.1 ascii
    rw [List.flatMap_cons, lowerChar_ascii both.1, ih both.2]
    rfl

theorem lowerAfter_ascii {text : List Char} (ascii : IsAscii text) (before : List Char) :
    lowerAfter before text = text.map Char.toLower := by
  induction text generalizing before with
  | nil => rfl
  | cons char rest ih =>
    have both := List.forall_mem_cons.1 ascii
    have other : char ≠ 'Σ' := by
      rintro rfl
      exact absurd both.1 (by decide)
    rw [lowerAfter, if_neg other, lowerChar_ascii both.1, ih both.2]
    rfl

theorem lower_ascii {text : List Char} (ascii : IsAscii text) :
    lower text = text.map Char.toLower :=
  lowerAfter_ascii ascii []

end Phrasebook.Text
