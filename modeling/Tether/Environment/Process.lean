import Tether.Environment

/-!
# The environment of a process

A process sees its environment as names and values of arbitrary bytes. Only entries
that are UTF-8 become part of an environment; the others are as good as unset.
-/
namespace Tether

/-- The bytes of names with the bytes of their values, each name once. -/
structure ProcessEnvironment where
  entries : List (ByteArray × ByteArray)
  distinct : (entries.map Prod.fst).Nodup

namespace ProcessEnvironment

instance : EmptyCollection ProcessEnvironment := ⟨⟨[], List.nodup_nil⟩⟩

def erase (p : ProcessEnvironment) (name : ByteArray) : ProcessEnvironment where
  entries := p.entries.filter fun e => e.1.data != name.data
  distinct := p.distinct.sublist (List.filter_sublist.map Prod.fst)

def unset (p : ProcessEnvironment) (name : String) : ProcessEnvironment := p.erase name.toByteArray

theorem mem_entries_erase {p : ProcessEnvironment} {name : ByteArray} {e : ByteArray × ByteArray} :
    e ∈ (p.erase name).entries ↔ e ∈ p.entries ∧ e.1 ≠ name := by
  rw [erase, List.mem_filter, bne_iff_ne, Ne, Ne, ByteArray.ext_iff]

/-- What is set again after this is there once. -/
theorem not_mem_names_erase (p : ProcessEnvironment) (name : ByteArray) :
    name ∉ (p.erase name).entries.map Prod.fst := by
  intro found
  obtain ⟨e, kept, named⟩ := List.mem_map.mp found
  exact (mem_entries_erase.mp kept).2 named

/-- Sets a name to some bytes, whatever it was before. -/
def setBytes (p : ProcessEnvironment) (name : String) (value : ByteArray) :
    ProcessEnvironment where
  entries := (name.toByteArray, value) :: (p.unset name).entries
  distinct := List.nodup_cons.mpr ⟨p.not_mem_names_erase name.toByteArray, (p.unset name).distinct⟩

def set (p : ProcessEnvironment) (name value : String) : ProcessEnvironment :=
  p.setBytes name value.toByteArray

/-- The texts of an entry, if both its name and its value are texts. -/
def text? (e : ByteArray × ByteArray) : Option (String × String) := do
  return (← String.fromUTF8? e.1, ← String.fromUTF8? e.2)

def texts (p : ProcessEnvironment) : List (String × String) := p.entries.filterMap text?

end ProcessEnvironment

/-- What a process can read of its environment. -/
def Environment.ofProcess (p : ProcessEnvironment) : Environment := ofPairs p.texts

end Tether
