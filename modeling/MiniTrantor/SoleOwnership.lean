import Mathlib

/-!
# Items with one owner

Some items are owed an owner. Each of them has exactly one holder, or it is loose: it has
been given away by one holder and not yet been taken over. Ownership is moved, and an item is
no longer owed one when it ends.
-/

set_option autoImplicit false

namespace MiniTrantor

variable {Holder Item : Type} {holding later : Holder → Option Item} {loose : Option Item}
  {owed owing : Item → Prop} {holder : Holder} {item : Item}

structure SoleOwnership (holding : Holder → Option Item) (loose : Option Item)
    (owed : Item → Prop) : Prop where
  owes : ∀ {holder item}, holding holder = some item → owed item
  apart : ∀ {holder item}, holding holder = some item → loose ≠ some item
  sole : ∀ {first second item}, holding first = some item → holding second = some item →
    first = second
  owned : ∀ {item}, owed item → loose = some item ∨ ∃ holder, holding holder = some item
  loosened : ∀ {item}, loose = some item → owed item

namespace SoleOwnership

theorem start (none : ∀ holder, holding holder = none) (free : ∀ item, ¬owed item) :
    SoleOwnership holding .none owed where
  owes := by
    intro holder item held
    rw [none] at held
    cases held
  apart := by
    intro holder item held
    rw [none] at held
    cases held
  sole := by
    intro first second item held
    rw [none] at held
    cases held
  owned owes := absurd owes (free _)
  loosened held := by cases held

theorem congr (sole : SoleOwnership holding loose owed)
    (same : ∀ holder, later holder = holding holder) (still : ∀ item, owing item ↔ owed item) :
    SoleOwnership later loose owing := by
  have holdings : later = holding := funext same
  have owings : owing = owed := funext fun item => propext (still item)
  rwa [holdings, owings]

/-- A holder gives away what it has. -/
theorem give (sole : SoleOwnership holding none owed) (held : holding holder = loose)
    (gone : later holder = none) (others : ∀ other, other ≠ holder → later other = holding other) :
    SoleOwnership later loose owed := by
  have kept : ∀ {other thing}, later other = some thing →
      other ≠ holder ∧ holding other = some thing := by
    intro other thing has
    have differs : other ≠ holder := by
      rintro rfl
      rw [gone] at has
      cases has
    exact ⟨differs, others other differs ▸ has⟩
  constructor
  · exact fun has => sole.owes (kept has).2
  · intro other thing has same
    exact (kept has).1 (sole.sole (kept has).2 (held.trans same))
  · exact fun first second => sole.sole (kept first).2 (kept second).2
  · intro thing owes
    obtain none | ⟨other, has⟩ := sole.owned owes
    · cases none
    · by_cases same : other = holder
      · subst same
        exact .inl (held.symm.trans has)
      · exact .inr ⟨other, (others other same).trans has⟩
  · exact fun same => sole.owes (held.trans same)

/-- A holder without an item takes over what is loose. -/
theorem take (sole : SoleOwnership holding loose owed) (free : holding holder = none)
    (has : later holder = loose) (others : ∀ other, other ≠ holder → later other = holding other) :
    SoleOwnership later none owed := by
  have from_ : ∀ {other thing}, later other = some thing →
      other = holder ∧ loose = some thing ∨ other ≠ holder ∧ holding other = some thing := by
    intro other thing holds
    by_cases same : other = holder
    · subst same
      exact .inl ⟨rfl, has.symm.trans holds⟩
    · exact .inr ⟨same, others other same ▸ holds⟩
  constructor
  · intro other thing holds
    obtain ⟨_, away⟩ | ⟨_, holds⟩ := from_ holds
    · exact sole.loosened away
    · exact sole.owes holds
  · exact fun _ none => by cases none
  · intro first second thing one two
    obtain ⟨rfl, away⟩ | ⟨_, one⟩ := from_ one
    · obtain ⟨rfl, _⟩ | ⟨_, two⟩ := from_ two
      · rfl
      · exact absurd away (sole.apart two)
    · obtain ⟨_, away⟩ | ⟨_, two⟩ := from_ two
      · exact absurd away (sole.apart one)
      · exact sole.sole one two
  · intro thing owes
    obtain away | ⟨other, holds⟩ := sole.owned owes
    · exact .inr ⟨holder, has.trans away⟩
    · have differs : other ≠ holder := by
        rintro rfl
        rw [free] at holds
        cases holds
      exact .inr ⟨other, (others other differs).trans holds⟩
  · exact fun none => by cases none

/-- An item that nobody holds is no longer owed an owner. -/
theorem dismiss (sole : SoleOwnership holding loose owed)
    (only : ∀ other, loose = some other → other = item)
    (unheld : ∀ holder, holding holder ≠ some item) (gone : ¬owing item)
    (others : ∀ other, other ≠ item → (owing other ↔ owed other)) :
    SoleOwnership holding none owing := by
  constructor
  · intro holder thing has
    have differs : thing ≠ item := by
      rintro rfl
      exact unheld holder has
    exact (others thing differs).mpr (sole.owes has)
  · exact fun _ none => by cases none
  · exact sole.sole
  · intro thing owes
    have differs : thing ≠ item := by
      rintro rfl
      exact gone owes
    obtain same | held := sole.owned ((others thing differs).mp owes)
    · exact absurd (only thing same) differs
    · exact .inr held
  · exact fun none => by cases none

/-- There is a new item, loose at first. -/
theorem create (sole : SoleOwnership holding none owed) (new : ¬owed item) (owes : owing item)
    (others : ∀ other, other ≠ item → (owing other ↔ owed other)) :
    SoleOwnership holding (some item) owing := by
  have differs : ∀ {thing}, owed thing → thing ≠ item := by
    rintro thing old rfl
    exact new old
  constructor
  · exact fun has => (others _ (differs (sole.owes has))).mpr (sole.owes has)
  · intro holder thing has same
    cases same
    exact new (sole.owes has)
  · exact sole.sole
  · intro thing needs
    by_cases same : thing = item
    · exact .inl (congrArg some same.symm)
    · obtain none | held := sole.owned ((others thing same).mp needs)
      · cases none
      · exact .inr held
  · intro thing same
    cases same
    exact owes

end SoleOwnership

end MiniTrantor
