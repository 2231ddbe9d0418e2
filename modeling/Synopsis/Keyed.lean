import Synopsis.Text.Basic

namespace Synopsis

/-- Values under text keys, in the order in which the keys came. -/
abbrev Keyed (α : Type) := List (Text × α)

namespace Keyed

variable {α : Type}

def get? : Keyed α → Text → Option α
  | [], _ => none
  | (k, v) :: r, key => if k = key then some v else get? r key

/-- Puts a value under a key, in the place of a former one. -/
def set : Keyed α → Text → α → Keyed α
  | [], key, value => [(key, value)]
  | (k, v) :: r, key, value => if k = key then (k, value) :: r else (k, v) :: set r key value

/-- Puts a value under a key that has none. -/
def setDefault (l : Keyed α) (key : Text) (value : α) : Keyed α :=
  match get? l key with
  | some _ => l
  | none => l ++ [(key, value)]

def erase : Keyed α → Text → Keyed α
  | [], _ => []
  | (k, v) :: r, key => if k = key then r else (k, v) :: erase r key

def keys (l : Keyed α) : List Text := l.map Prod.fst

theorem get?_set_self (l : Keyed α) (key : Text) (value : α) :
    get? (set l key value) key = some value := by
  induction l with
  | nil => simp [set, get?]
  | cons e r ih =>
    obtain ⟨k, v⟩ := e
    by_cases h : k = key <;> simp [set, get?, h, ih]

theorem get?_set_of_ne (l : Keyed α) {key other : Text} (value : α) (h : other ≠ key) :
    get? (set l key value) other = get? l other := by
  induction l with
  | nil => simp [set, get?, h.symm]
  | cons e r ih =>
    obtain ⟨k, v⟩ := e
    by_cases hk : k = key
    · subst hk
      simp [set, get?, h.symm]
    · simp [set, get?, hk, ih]

/-- Setting a new key and erasing it again changes nothing. -/
theorem erase_set_of_get?_none {l : Keyed α} {key : Text} (value : α)
    (h : get? l key = none) : erase (set l key value) key = l := by
  induction l with
  | nil => simp [set, erase]
  | cons e r ih =>
    obtain ⟨k, v⟩ := e
    by_cases hk : k = key
    · simp [get?, hk] at h
    · simp only [get?, hk, ↓reduceIte] at h
      simp [set, erase, hk, ih h]

end Keyed

end Synopsis
