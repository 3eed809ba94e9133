import Mathlib.Data.List.Basic
import Phrasebook.Locale.Basic

namespace Phrasebook.Locale

variable {locales : List Locale} {name : String} {locale : Locale}

theorem isNamed_iff : locale.isNamed name = true ↔ name ≠ "" ∧ name ∈ locale.aliases := by
  simp [isNamed]

theorem resolve?_eq_none_iff : resolve? locales name = none ↔
    name = "" ∨ ∀ locale ∈ locales, name ∉ locale.aliases := by
  simp only [resolve?, List.find?_eq_none, isNamed_iff, not_and]
  by_cases blank : name = "" <;> simp [blank]

theorem resolve?_eq_some_iff : resolve? locales name = some locale ↔ name ≠ "" ∧
    ∃ before after, locales = before ++ locale :: after ∧ name ∈ locale.aliases ∧
      ∀ other ∈ before, name ∉ other.aliases := by
  simp only [resolve?, List.find?_eq_some_iff_append, isNamed_iff]
  constructor
  · rintro ⟨⟨filled, named⟩, before, after, split, passed⟩
    refine ⟨filled, before, after, split, named, fun other member otherNamed => ?_⟩
    have rejected := passed other member
    rw [Bool.not_eq_true', ← Bool.not_eq_true, isNamed_iff] at rejected
    exact rejected ⟨filled, otherNamed⟩
  · rintro ⟨filled, before, after, split, named, passed⟩
    refine ⟨⟨filled, named⟩, before, after, split, fun other member => ?_⟩
    rw [Bool.not_eq_true', ← Bool.not_eq_true, isNamed_iff]
    exact fun ⟨_, otherNamed⟩ => passed other member otherNamed

def rank (name : String) (locale : Locale) : Nat := locale.aliases.idxOf name

theorem rank_lt_iff : locale.rank name < 5 ↔ name ∈ locale.aliases := List.idxOf_lt_length_iff

/-- No locale has the name earlier among its aliases, and none before this one has it as early. -/
structure Preferred (locales : List Locale) (name : String) (locale : Locale) : Prop where
  named : name ∈ locale.aliases
  earliest : ∀ other ∈ locales, locale.rank name ≤ other.rank name
  first : ∃ before after, locales = before ++ locale :: after ∧
    ∀ other ∈ before, other.rank name ≠ locale.rank name

theorem Preferred.unique {other : Locale} (preferred : Preferred locales name locale)
    (otherPreferred : Preferred locales name other) : locale = other := by
  obtain ⟨before, after, split, apart⟩ := preferred.first
  obtain ⟨before', after', split', apart'⟩ := otherPreferred.first
  have level : other.rank name = locale.rank name :=
    Nat.le_antisymm (otherPreferred.earliest _ (by simp [split]))
      (preferred.earliest _ (by simp [split']))
  rw [level] at apart'
  have found : locales.find? (·.rank name = locale.rank name) = some locale :=
    List.find?_eq_some_iff_append.2 ⟨by simp, before, after, split, by simpa using apart⟩
  have found' : locales.find? (·.rank name = locale.rank name) = some other :=
    List.find?_eq_some_iff_append.2 ⟨by simpa using level, before', after', split',
      by simpa using apart'⟩
  exact Option.some.inj (found.symm.trans found')

theorem preferred_of_resolve? (resolved : resolve? locales name = some locale)
    (earliest : ∀ other ∈ locales, locale.rank name ≤ other.rank name) :
    Preferred locales name locale := by
  obtain ⟨-, before, after, split, named, passed⟩ := resolve?_eq_some_iff.1 resolved
  refine ⟨named, earliest, before, after, split, fun other member same => ?_⟩
  exact passed other member (rank_lt_iff.1 (same ▸ rank_lt_iff.2 named))

def ResolvesByKind (locales : List Locale) (name : String) : Prop :=
  ∀ locale, resolve? locales name = some locale ↔ name ≠ "" ∧ Preferred locales name locale

theorem resolvesByKind_iff : ResolvesByKind locales name ↔
    ∀ locale, resolve? locales name = some locale →
      ∀ other ∈ locales, locale.rank name ≤ other.rank name := by
  constructor
  · exact fun byKind locale resolved => ((byKind locale).1 resolved).2.earliest
  · intro earliest locale
    constructor
    · intro resolved
      exact ⟨(resolve?_eq_some_iff.1 resolved).1,
        preferred_of_resolve? resolved (earliest locale resolved)⟩
    · rintro ⟨filled, preferred⟩
      obtain ⟨before, after, split, -⟩ := preferred.first
      have member : locale ∈ locales := by simp [split]
      cases resolved : resolve? locales name with
      | none =>
        rcases resolve?_eq_none_iff.1 resolved with blank | unnamed
        · exact absurd blank filled
        · exact absurd preferred.named (unnamed locale member)
      | some other =>
        have otherPreferred := preferred_of_resolve? resolved (earliest other resolved)
        rw [otherPreferred.unique preferred]

/-- A name that is empty or that no locale has stands for none, and any other one for the first
locale that has it. That is the preferred locale if and only if no locale has the name earlier among
its aliases. -/
theorem resolve?_outcome (locales : List Locale) (name : String) :
    (resolve? locales name = none ↔ name = "" ∨ ∀ locale ∈ locales, name ∉ locale.aliases) ∧
    (∀ locale, resolve? locales name = some locale ↔ name ≠ "" ∧
      ∃ before after, locales = before ++ locale :: after ∧ name ∈ locale.aliases ∧
        ∀ other ∈ before, name ∉ other.aliases) ∧
    (ResolvesByKind locales name ↔ ∀ locale, resolve? locales name = some locale →
      ∀ other ∈ locales, locale.rank name ≤ other.rank name) :=
  ⟨resolve?_eq_none_iff, fun _ => resolve?_eq_some_iff, resolvesByKind_iff⟩

def bokmal : Locale := ⟨"nb-NO", "no", "nob", "nob", "nb-NO", "Norwegian Bokmål", []⟩

def norwegian : Locale := ⟨"no", "no", "nor", "nor", "no", "Norwegian", []⟩

theorem bokmal_not_resolvesByKind : ¬ResolvesByKind [bokmal, norwegian] "no" := by
  intro byKind
  have preferred : Preferred [bokmal, norwegian] "no" norwegian :=
    ⟨by decide, by decide, [bokmal], [], rfl, by decide⟩
  have resolved := (byKind norwegian).2 ⟨by decide, preferred⟩
  exact absurd resolved (by decide)

end Phrasebook.Locale
