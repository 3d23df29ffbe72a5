import Mathlib.Data.List.Nodup
import Tether.Environment.Process
import Tether.Proofs.Text.Utf8

/-!
# What is read of a process

Of the entries of a process, an environment has those whose bytes are UTF-8, each with the one
text that is encoded as them. It makes no difference in which order they come, since no name
comes twice. An entry that is not UTF-8 leaves no trace: what is read is what would be read if
the entry were not there, so no query and no selection can tell the two apart.
-/
namespace Tether

open Text

namespace Environment

/-- A name has the text that it is set to, or else the one that it had before. -/
theorem get_foldl_set_eq_some_iff (pairs : List (String × String)) (env : Environment)
    (distinct : (pairs.map Prod.fst).Nodup) (name v : String) :
    (pairs.foldl (fun env p => env.set p.1 p.2) env).get name = some v ↔
      (name, v) ∈ pairs ∨ name ∉ pairs.map Prod.fst ∧ env.get name = some v := by
  induction pairs generalizing env with
  | nil => simp
  | cons p rest ih =>
    obtain ⟨first, value⟩ := p
    rw [List.map_cons, List.nodup_cons] at distinct
    obtain ⟨fresh, others⟩ := distinct
    rw [List.foldl_cons, ih (env.set first value) others, get_set]
    by_cases same : name = first
    · subst same
      have later : (name, v) ∉ rest := fun found => fresh (List.mem_map.mpr ⟨_, found, rfl⟩)
      simp [later, fresh, eq_comm]
    · simp [same]

/-- Where names are distinct the order of setting them does not matter. -/
theorem get_ofPairs_eq_some_iff (pairs : List (String × String))
    (distinct : (pairs.map Prod.fst).Nodup) (name v : String) :
    (ofPairs pairs).get name = some v ↔ (name, v) ∈ pairs := by
  rw [ofPairs, get_foldl_set_eq_some_iff pairs {} distinct, get_empty]
  constructor
  · rintro (found | ⟨-, nothing⟩)
    · exact found
    · cases nothing
  · exact Or.inl

end Environment

namespace ProcessEnvironment

theorem text?_eq_some_iff (e : ByteArray × ByteArray) (name v : String) :
    text? e = some (name, v) ↔ Encodes e.1 name ∧ Encodes e.2 v := by
  rw [← fromUTF8?_eq_some_iff, ← fromUTF8?_eq_some_iff]
  unfold text?
  cases String.fromUTF8? e.1 <;> cases String.fromUTF8? e.2 <;> simp

theorem text?_eq_none_iff (e : ByteArray × ByteArray) :
    text? e = none ↔ ¬(Utf8 e.1.data.toList ∧ Utf8 e.2.data.toList) := by
  rw [utf8_iff_encodes, utf8_iff_encodes, Option.eq_none_iff_forall_ne_some]
  constructor
  · rintro nothing ⟨⟨name, named⟩, v, valued⟩
    exact nothing (name, v) ((text?_eq_some_iff e name v).mpr ⟨named, valued⟩)
  · rintro foreign ⟨name, v⟩ read
    obtain ⟨named, valued⟩ := (text?_eq_some_iff e name v).mp read
    exact foreign ⟨⟨name, named⟩, v, valued⟩

/-- An entry is visible if both of its sides are texts; half a text hides the whole. -/
theorem mem_texts_iff (p : ProcessEnvironment) (name v : String) :
    (name, v) ∈ p.texts ↔ ∃ e ∈ p.entries, Encodes e.1 name ∧ Encodes e.2 v := by
  rw [texts, List.mem_filterMap]
  exact exists_congr fun e => and_congr_right fun _ => text?_eq_some_iff e name v

/-- Names that are distinct as bytes are distinct as texts. -/
theorem texts_distinct (p : ProcessEnvironment) : (p.texts.map Prod.fst).Nodup := by
  have apart : p.entries.Pairwise fun e e' => e.1 ≠ e'.1 := List.pairwise_map.mp p.distinct
  rw [texts, List.Nodup, List.pairwise_map, List.pairwise_filterMap]
  refine apart.imp ?_
  rintro e e' differ ⟨name, v⟩ read ⟨name', v'⟩ read' same
  dsimp only at same
  subst same
  have named := ((text?_eq_some_iff e name v).mp read).1
  have named' := ((text?_eq_some_iff e' name v').mp read').1
  exact differ (named.unique named')

/-- Reading a name finds the entry of the process, whose names are distinct. -/
theorem get_ofProcess_eq_some_iff (p : ProcessEnvironment) (name v : String) :
    (Environment.ofProcess p).get name = some v ↔
      ∃ e ∈ p.entries, Encodes e.1 name ∧ Encodes e.2 v := by
  rw [Environment.ofProcess, Environment.get_ofPairs_eq_some_iff _ p.texts_distinct, mem_texts_iff]

/-- What is left is read as before. -/
theorem get_ofProcess_erase_eq_some_iff (p : ProcessEnvironment) (bytes : ByteArray)
    (name v : String) :
    (Environment.ofProcess (p.erase bytes)).get name = some v ↔
      name.toByteArray ≠ bytes ∧ (Environment.ofProcess p).get name = some v := by
  rw [get_ofProcess_eq_some_iff, get_ofProcess_eq_some_iff]
  constructor
  · rintro ⟨e, kept, named, valued⟩
    obtain ⟨found, other⟩ := mem_entries_erase.mp kept
    have own : e.1 = name.toByteArray := named.unique (encodes_toByteArray name)
    rw [own] at other
    exact ⟨other, e, found, named, valued⟩
  · rintro ⟨other, e, found, named, valued⟩
    have own : e.1 = name.toByteArray := named.unique (encodes_toByteArray name)
    rw [← own] at other
    exact ⟨e, mem_entries_erase.mpr ⟨found, other⟩, named, valued⟩

theorem get_ofProcess_unset (p : ProcessEnvironment) (name other : String) :
    (Environment.ofProcess (p.unset name)).get other =
      if other = name then none else (Environment.ofProcess p).get other := by
  apply Option.ext
  intro v
  rw [unset, get_ofProcess_erase_eq_some_iff, Ne, String.toByteArray_inj]
  by_cases same : other = name
  · simp [same]
  · simp [same]

/-- An entry that is not UTF-8 might as well not be there. -/
theorem texts_erase_of_foreign (p : ProcessEnvironment) (e : ByteArray × ByteArray)
    (found : e ∈ p.entries) (foreign : text? e = none) : (p.erase e.1).texts = p.texts := by
  rw [texts, texts, erase, List.filterMap_filter]
  apply List.filterMap_congr
  intro e' found'
  by_cases same : e'.1 = e.1
  · -- No name comes twice, so this is the entry itself.
    have itself : e' = e := List.inj_on_of_nodup_map p.distinct found' found same
    rw [itself, foreign, ite_self]
  · rw [if_pos (bne_iff_ne.mpr fun data => same (ByteArray.ext data))]

/-- What an environment has of the entries of a process. -/
structure ReadAsTexts (p : ProcessEnvironment) : Prop where
  /-- A name has a text exactly if there is an entry with the bytes of both. -/
  contents : ∀ name v, (Environment.ofProcess p).get name = some v ↔
    ∃ e ∈ p.entries, Encodes e.1 name ∧ Encodes e.2 v
  /-- The entries that are read are those that are UTF-8. -/
  contained : ∀ e ∈ p.entries, (Utf8 e.1.data.toList ∧ Utf8 e.2.data.toList) ↔
    ∃ name v, Encodes e.1 name ∧ Encodes e.2 v ∧ (Environment.ofProcess p).get name = some v
  /-- An entry with a byte that does not fit is the same to all queries and selections as none. -/
  foreign : ∀ e ∈ p.entries, ¬(Utf8 e.1.data.toList ∧ Utf8 e.2.data.toList) →
    Environment.ofProcess p = Environment.ofProcess (p.erase e.1)
  /-- A name that is unset has no text, and the others have those that they had. -/
  unset : ∀ name other, (Environment.ofProcess (p.unset name)).get other =
    if other = name then none else (Environment.ofProcess p).get other

theorem read_as_texts (p : ProcessEnvironment) : p.ReadAsTexts where
  contents := get_ofProcess_eq_some_iff p
  contained e found := by
    constructor
    · rintro ⟨first, second⟩
      obtain ⟨name, named⟩ := (utf8_iff_encodes e.1).mp first
      obtain ⟨v, valued⟩ := (utf8_iff_encodes e.2).mp second
      exact ⟨name, v, named, valued,
        (get_ofProcess_eq_some_iff p name v).mpr ⟨e, found, named, valued⟩⟩
    · rintro ⟨name, v, named, valued, -⟩
      exact ⟨(utf8_iff_encodes e.1).mpr ⟨name, named⟩, (utf8_iff_encodes e.2).mpr ⟨v, valued⟩⟩
  foreign e found foreign := by
    have same := texts_erase_of_foreign p e found ((text?_eq_none_iff e).mpr foreign)
    rw [Environment.ofProcess, Environment.ofProcess, same]
  unset := get_ofProcess_unset p

end ProcessEnvironment
end Tether
