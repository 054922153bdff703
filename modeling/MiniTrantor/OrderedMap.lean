import Mathlib

/-!
# Ordered maps

Finite maps as lists of entries in strictly increasing order of their keys,
with the operations of an ordered associative container: `emplace` keeps the
entry already there, `erase` drops at most one, and the entries with a key up to
a bound stand at the front.
-/

set_option autoImplicit false

namespace MiniTrantor

structure OrderedMap (Key Value : Type) [LinearOrder Key] where
  entries : List (Key × Value) := []
  sorted : entries.Pairwise fun first second => first.1 < second.1 := by exact List.Pairwise.nil

namespace OrderedMap

variable {Key Value : Type} [LinearOrder Key]

def emplaceEntry (key : Key) (value : Value) : List (Key × Value) → List (Key × Value)
  | [] => [(key, value)]
  | entry :: rest =>
      if key < entry.1 then (key, value) :: entry :: rest
      else if entry.1 < key then entry :: emplaceEntry key value rest
      else entry :: rest

theorem mem_emplaceEntry {key : Key} {value : Value} {entries : List (Key × Value)}
    {entry : Key × Value} (member : entry ∈ emplaceEntry key value entries) :
    entry = (key, value) ∨ entry ∈ entries := by
  induction entries with
  | nil => exact .inl (List.mem_singleton.mp member)
  | cons first rest ih =>
      rw [emplaceEntry] at member
      split at member
      · exact List.mem_cons.mp member
      · split at member
        · rcases List.mem_cons.mp member with same | later
          · exact .inr (same ▸ List.mem_cons_self)
          · exact (ih later).imp_right (List.mem_cons_of_mem _)
        · exact .inr member

theorem emplaceEntry_sorted {key : Key} {value : Value} {entries : List (Key × Value)}
    (sorted : entries.Pairwise fun first second => first.1 < second.1) :
    (emplaceEntry key value entries).Pairwise fun first second => first.1 < second.1 := by
  induction entries with
  | nil => exact List.pairwise_singleton _ _
  | cons first rest ih =>
      obtain ⟨above, tail⟩ := List.pairwise_cons.mp sorted
      rw [emplaceEntry]
      split
      case isTrue before =>
        refine List.pairwise_cons.mpr ⟨?_, sorted⟩
        intro entry member
        rcases List.mem_cons.mp member with same | later
        · exact same ▸ before
        · exact before.trans (above entry later)
      case isFalse =>
        split
        case isFalse => exact sorted
        case isTrue after =>
          refine List.pairwise_cons.mpr ⟨?_, ih tail⟩
          intro entry member
          rcases mem_emplaceEntry member with same | old
          · exact same ▸ after
          · exact above entry old

theorem emplaceEntry_mem {key : Key} {value : Value} {entries : List (Key × Value)}
    {entry : Key × Value} (fresh : ∀ entry ∈ entries, entry.1 ≠ key)
    (member : entry = (key, value) ∨ entry ∈ entries) : entry ∈ emplaceEntry key value entries := by
  induction entries with
  | nil => simpa [emplaceEntry] using member
  | cons first rest ih =>
      have different := fresh first List.mem_cons_self
      rw [emplaceEntry]
      split
      · exact List.mem_cons.mpr member
      case isFalse later =>
        rw [if_pos (lt_of_le_of_ne (not_lt.mp later) different)]
        rcases member with new | old
        · exact List.mem_cons_of_mem _
            (ih (fun entry member => fresh entry (List.mem_cons_of_mem _ member)) (.inl new))
        · rcases List.mem_cons.mp old with same | rest
          · exact same ▸ List.mem_cons_self
          · exact List.mem_cons_of_mem _
              (ih (fun entry member => fresh entry (List.mem_cons_of_mem _ member)) (.inr rest))

/-- `std::map::emplace`: no effect if the key is there. -/
def emplace (key : Key) (value : Value) (map : OrderedMap Key Value) : OrderedMap Key Value where
  entries := emplaceEntry key value map.entries
  sorted := emplaceEntry_sorted map.sorted

def erase (key : Key) (map : OrderedMap Key Value) : OrderedMap Key Value where
  entries := map.entries.filter fun entry => entry.1 ≠ key
  sorted := map.sorted.filter _

/-- The entries up to the bound, which come first, and the map without them. -/
def splitUpTo (within : Key → Bool) (map : OrderedMap Key Value) :
    List (Key × Value) × OrderedMap Key Value :=
  (map.entries.takeWhile fun entry => within entry.1,
    { entries := map.entries.dropWhile fun entry => within entry.1
      sorted := map.sorted.sublist (List.dropWhile_sublist _) })

variable {map : OrderedMap Key Value} {key : Key} {value : Value} {entry other : Key × Value}

theorem mem_emplace (fresh : ∀ entry ∈ map.entries, entry.1 ≠ key) :
    entry ∈ (map.emplace key value).entries ↔ entry = (key, value) ∨ entry ∈ map.entries :=
  ⟨mem_emplaceEntry, emplaceEntry_mem fresh⟩

@[simp] theorem mem_erase : entry ∈ (map.erase key).entries ↔ entry ∈ map.entries ∧ entry.1 ≠ key := by
  simp [erase]

theorem keys_nodup (map : OrderedMap Key Value) : (map.entries.map Prod.fst).Nodup :=
  (List.pairwise_map.mpr map.sorted).imp fun before => before.ne

theorem entry_unique (first : entry ∈ map.entries) (second : other ∈ map.entries)
    (same : entry.1 = other.1) : entry = other :=
  List.inj_on_of_nodup_map map.keys_nodup first second same

/-- In sorted entries the ones that a down-closed bound admits come first. -/
theorem front_eq_filter {within : Key → Bool} {entries : List (Key × Value)}
    (sorted : entries.Pairwise fun first second => first.1 < second.1)
    (down : ∀ first second, first < second → within second = true → within first = true) :
    entries.takeWhile (fun entry => within entry.1) = entries.filter (fun entry => within entry.1) ∧
    entries.dropWhile (fun entry => within entry.1) = entries.filter (fun entry => !within entry.1) := by
  induction entries with
  | nil => exact ⟨rfl, rfl⟩
  | cons first rest ih =>
      obtain ⟨above, tail⟩ := List.pairwise_cons.mp sorted
      obtain ⟨front, back⟩ := ih tail
      cases bound : within first.1 with
      | true => simp [bound, front, back]
      | false =>
          have beyond : ∀ later ∈ rest, within later.1 = false := by
            intro later member
            by_contra inside
            rw [down _ _ (above later member) (by simpa using inside)] at bound
            cases bound
          constructor
          · rw [List.takeWhile_cons, bound, List.filter_cons, bound]
            exact (List.filter_eq_nil_iff.mpr (by simpa using beyond)).symm
          · rw [List.dropWhile_cons, bound, List.filter_cons, bound]
            have rest : rest.filter (fun entry => !within entry.1) = rest :=
              List.filter_eq_self.mpr (by simpa using beyond)
            simp [rest]

theorem splitUpTo_eq {within : Key → Bool}
    (down : ∀ first second, first < second → within second = true → within first = true) :
    (map.splitUpTo within).1 = map.entries.filter (fun entry => within entry.1) ∧
      (map.splitUpTo within).2.entries = map.entries.filter (fun entry => !within entry.1) :=
  front_eq_filter map.sorted down

end OrderedMap

end MiniTrantor
