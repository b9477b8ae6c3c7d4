/-
Tables from names to things.  A name stands for at most one thing, and the
newest one is listed first.
-/
import SampleLine.Text.Basic

namespace SampleLine

structure Registry (α : Type) where
  entries : List (Text × α)
deriving DecidableEq, Repr

namespace Registry

variable {α : Type}

def empty : Registry α := ⟨[]⟩

def get? (registry : Registry α) (name : Text) : Option α :=
  registry.entries.lookup name

def erase (registry : Registry α) (name : Text) : Registry α :=
  ⟨registry.entries.filter fun entry => entry.1 ≠ name⟩

/-- Let a name stand for a thing, whatever it stood for before. -/
def set (registry : Registry α) (name : Text) (thing : α) : Registry α :=
  ⟨(name, thing) :: (registry.erase name).entries⟩

theorem get?_cons (key name : Text) (thing : α) (rest : List (Text × α)) :
    get? ⟨(key, thing) :: rest⟩ name = if name = key then some thing else get? ⟨rest⟩ name := by
  by_cases same : name = key
  · subst same
    simp [get?]
  · simp [get?, List.lookup_cons, beq_false_of_ne same, same]

theorem get?_erase (registry : Registry α) (name other : Text) :
    (registry.erase name).get? other =
      if other = name then none else registry.get? other := by
  obtain ⟨entries⟩ := registry
  unfold erase
  induction entries with
  | nil => simp [get?]
  | cons entry rest ih =>
      obtain ⟨key, thing⟩ := entry
      by_cases same : key = name
      · subst same
        rw [List.filter_cons_of_neg (by simp), ih, get?_cons]
        split <;> rfl
      · rw [List.filter_cons_of_pos (by simpa using same), get?_cons, get?_cons, ih]
        by_cases asked : other = key
        · subst asked
          simp [same]
        · simp [asked]

theorem get?_set (registry : Registry α) (name other : Text) (thing : α) :
    (registry.set name thing).get? other =
      if other = name then some thing else registry.get? other := by
  unfold set
  rw [get?_cons]
  split
  · rfl
  · rename_i distinct
    exact (get?_erase registry name other).trans (if_neg distinct)

example : ((empty.set ['a'] 1).set ['a'] 2).entries = [(['a'], 2)] := by decide

end Registry

end SampleLine
