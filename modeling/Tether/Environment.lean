import Tether.Text.Quoted
import Tether.Text.Record

/-!
# Environments

An environment gives texts to names. Setting a name replaces its text. Two
environments are the same if they give the same text to every name, in whatever
order the names were set.
-/
namespace Tether

/-- Names with their texts; of several entries for a name the first counts. -/
structure Environment where
  entries : List (String × String) := []
  deriving Repr

namespace Environment

def get (env : Environment) (name : String) : Option String := env.entries.lookup name

def remove (env : Environment) (name : String) : Environment :=
  { entries := env.entries.filter (fun e => e.1 != name) }

def set (env : Environment) (name value : String) : Environment :=
  { entries := (name, value) :: (env.remove name).entries }

/-- The entries set in order, so that the last one for a name counts. -/
def ofPairs (pairs : List (String × String)) : Environment :=
  pairs.foldl (fun env p => env.set p.1 p.2) {}

/-- Whether both give the same text to every name. -/
def same (a b : Environment) : Bool :=
  a.entries.all (fun e => a.get e.1 == b.get e.1) &&
    b.entries.all (fun e => a.get e.1 == b.get e.1)

def shown (env : Environment) : String :=
  Text.record "Environment"
    [("vars", Text.table (env.entries.map fun e => (Text.quoted e.1, Text.quoted e.2)))]

@[simp] theorem get_empty (name : String) : get {} name = none := rfl

private theorem lookup_without (entries : List (String × String)) (name other : String) :
    (entries.filter (fun e => e.1 != name)).lookup other =
      if other = name then none else entries.lookup other := by
  induction entries with
  | nil => simp
  | cons e rest ih =>
    obtain ⟨k, v⟩ := e
    by_cases hk : k = name
    · rw [List.filter_cons_of_neg (by simp [hk]), ih, List.lookup_cons]
      by_cases ho : other = name
      · simp [ho]
      · have : (other == k) = false := by simp [hk, ho]
        simp [ho, this]
    · rw [List.filter_cons_of_pos (by simp [hk]), List.lookup_cons, List.lookup_cons, ih]
      by_cases ho : other = k
      · simp [ho, hk]
      · have : (other == k) = false := by simp [ho]
        simp [this]

/-- Taking a name away is seen under that name and under no other. -/
theorem get_remove (env : Environment) (name other : String) :
    (env.remove name).get other = if other = name then none else env.get other :=
  lookup_without env.entries name other

/-- Setting a name is seen under that name and under no other, whether or not it was set
before. -/
theorem get_set (env : Environment) (name value other : String) :
    (env.set name value).get other = if other = name then some value else env.get other := by
  unfold set get
  rw [List.lookup_cons]
  by_cases h : other = name
  · simp [h]
  · have : (other == name) = false := by simp [h]
    simp only [this, h, if_false]
    exact (get_remove env name other).trans (by simp [h, get])

end Environment
end Tether
