import Tether.Environment.Settings
import Tether.Proofs.Text.Blank

/-!
# Lists of addresses and the texts that stand for them

A text stands for the list of what it has between its commas, blanks aside. Every text stands
for one list of addresses, the one that is read from it, and a list is read from all texts that
stand for it, with whatever blanks and blank entries. Putting a comma between two texts puts
one list behind the other.
-/
namespace Tether

/-- What an address looks like in a list. -/
structure IpEntry (ip : String) : Prop where
  nonempty : ip ≠ ""
  unbroken : ',' ∉ ip.toList
  trimmed : Text.Trimmed ip.toList

/-- A list of addresses with what may stand between the commas of its text: every address once
in its place, padded with blanks, and any number of blank cells. -/
inductive Cells : List String → List (List Char) → Prop
  | nil : Cells [] []
  | blank {ips : List String} {cells : List (List Char)} (cell : List Char)
    (blank : Text.Blank cell) (rest : Cells ips cells) : Cells ips (cell :: cells)
  | entry {ips : List String} {cells : List (List Char)} (ip : String) (cell : List Char)
    (padded : Text.Padded ip.toList cell) (rest : Cells ips cells) :
    Cells (ip :: ips) (cell :: cells)

/-- A text that stands for a list: its cells with commas between them. -/
def StandsFor (s : String) (ips : List String) : Prop :=
  ∃ cells, Cells ips cells ∧ s.toList = [','].intercalate cells

/-- What is read from cells. -/
def entries (cells : List (List Char)) : List String :=
  ((cells.map Text.trim).filter (fun e => !e.isEmpty)).map String.ofList

theorem parseIpList_eq (s : String) : parseIpList s = entries (s.toList.splitOn ',') := rfl

theorem entries_append (front back : List (List Char)) :
    entries (front ++ back) = entries front ++ entries back := by
  simp only [entries, List.map_append, List.filter_append]

theorem entries_blank (cell : List Char) (cells : List (List Char)) (blank : Text.Blank cell) :
    entries (cell :: cells) = entries cells := by
  simp [entries, Text.trim_of_blank blank]

theorem entries_padded (ip : String) (cell : List Char) (cells : List (List Char))
    (entry : IpEntry ip) (padded : Text.Padded ip.toList cell) :
    entries (cell :: cells) = ip :: entries cells := by
  have visible : ip.toList ≠ [] := fun empty => entry.nonempty (String.toList_eq_nil_iff.mp empty)
  simp [entries, Text.trim_of_padded entry.trimmed padded, visible]

/-- By induction on how the cells show the list. -/
theorem entries_of_cells {ips : List String} {cells : List (List Char)} (shown : Cells ips cells)
    (proper : ∀ ip ∈ ips, IpEntry ip) : entries cells = ips := by
  induction shown with
  | nil => rfl
  | blank cell blank rest ih => rw [entries_blank cell _ blank, ih proper]
  | entry ip cell padded rest ih =>
    rw [entries_padded ip cell _ (proper ip List.mem_cons_self) padded,
      ih fun other found => proper other (List.mem_cons_of_mem ip found)]

theorem comma_of_blank {cell : List Char} (blank : Text.Blank cell) : ',' ∉ cell :=
  fun found => absurd (blank ',' found) (by decide)

/-- Neither blanks nor addresses have a comma, so the text can be cut at its commas again. -/
theorem comma_of_cells {ips : List String} {cells : List (List Char)} (shown : Cells ips cells)
    (proper : ∀ ip ∈ ips, IpEntry ip) : ∀ cell ∈ cells, ',' ∉ cell := by
  induction shown with
  | nil => simp
  | blank cell blank rest ih => exact List.forall_mem_cons.mpr ⟨comma_of_blank blank, ih proper⟩
  | entry ip cell padded rest ih =>
    obtain ⟨this, others⟩ := List.forall_mem_cons.mp proper
    obtain ⟨front, back, ahead, behind, rfl⟩ := padded
    refine List.forall_mem_cons.mpr ⟨?_, ih others⟩
    simp [comma_of_blank ahead, comma_of_blank behind, this.unbroken]

/-- A list is read from every text that stands for it. -/
theorem parseIpList_of_standsFor {s : String} {ips : List String} (stands : StandsFor s ips)
    (proper : ∀ ip ∈ ips, IpEntry ip) : parseIpList s = ips := by
  obtain ⟨cells, shown, text⟩ := stands
  rw [parseIpList_eq, text]
  by_cases empty : cells = []
  · subst empty
    cases shown
    rfl
  · rw [List.splitOn_intercalate ',' (comma_of_cells shown proper) empty]
    exact entries_of_cells shown proper

theorem not_mem_of_mem_splitOn (s cell : List Char) (found : cell ∈ s.splitOn ',') :
    ',' ∉ cell := by
  induction s generalizing cell with
  | nil =>
    rw [List.splitOn_nil, List.mem_singleton] at found
    simp [found]
  | cons c rest ih =>
    rw [List.splitOn_cons_eq_if_modifyHead] at found
    split at found
    next =>
      rcases List.mem_cons.mp found with rfl | later
      · simp
      · exact ih cell later
    next other =>
      match cut : rest.splitOn ',' with
      | [] => exact absurd cut (List.splitOn_ne_nil _ _)
      | first :: later =>
        rw [cut] at found ih
        rcases List.mem_cons.mp found with rfl | found
        · have clean := ih first List.mem_cons_self
          have different : ',' ≠ c := fun same => other (beq_iff_eq.mpr same.symm)
          simp [clean, different]
        · exact ih cell (List.mem_cons_of_mem first found)

/-- Any cells whatsoever are some addresses with their blanks. -/
theorem cells_entries (cells : List (List Char)) : Cells (entries cells) cells := by
  induction cells with
  | nil => exact .nil
  | cons cell rest ih =>
    by_cases nothing : Text.trim cell = []
    · have blank := Text.blank_of_trim_eq_nil nothing
      rw [entries_blank cell rest blank]
      exact .blank cell blank ih
    · have first : entries (cell :: rest) = String.ofList (Text.trim cell) :: entries rest := by
        simp [entries, nothing]
      rw [first]
      refine .entry _ cell ?_ ih
      rw [String.toList_ofList]
      exact Text.trim_padded cell

/-- No text is malformed as a list. -/
theorem standsFor_parseIpList (s : String) : StandsFor s (parseIpList s) :=
  ⟨s.toList.splitOn ',', cells_entries _, (List.intercalate_splitOn ',').symm⟩

theorem ipEntry_of_mem (s ip : String) (found : ip ∈ parseIpList s) : IpEntry ip := by
  rw [parseIpList_eq, entries, List.mem_map] at found
  obtain ⟨core, found, rfl⟩ := found
  obtain ⟨found, visible⟩ := List.mem_filter.mp found
  obtain ⟨cell, inside, rfl⟩ := List.mem_map.mp found
  obtain ⟨front, back, -, -, text⟩ := Text.trim_padded cell
  have clean := not_mem_of_mem_splitOn s.toList cell inside
  exact
    { nonempty := fun empty => by
        rw [String.ofList_eq_empty_iff] at empty
        simp [empty] at visible
      unbroken := fun comma => by
        rw [String.toList_ofList] at comma
        rw [text] at clean
        simp [comma] at clean
      trimmed := by
        rw [String.toList_ofList]
        exact Text.trim_trimmed cell }

/-- Joining texts with a comma joins their lists; neither of the two has to be well formed. -/
theorem parseIpList_append_comma (a b : String) :
    parseIpList (a ++ "," ++ b) = parseIpList a ++ parseIpList b := by
  have text : (a ++ "," ++ b).toList = a.toList ++ ',' :: b.toList := by simp
  rw [parseIpList_eq, text, List.splitOn_append_cons_self, entries_append]
  rfl

/-- Addresses are cells of their own. -/
theorem cells_self (ips : List String) : Cells ips (ips.map String.toList) := by
  induction ips with
  | nil => exact .nil
  | cons ip rest ih => exact .entry ip ip.toList (Text.Padded.refl _) ih

theorem standsFor_intercalate (ips : List String) : StandsFor (String.intercalate "," ips) ips :=
  ⟨_, cells_self ips, String.toList_intercalate⟩

/-- What was read survives being written plainly, so reading a second time changes nothing. -/
theorem parseIpList_intercalate (s : String) :
    parseIpList (String.intercalate "," (parseIpList s)) = parseIpList s :=
  parseIpList_of_standsFor (standsFor_intercalate _) (ipEntry_of_mem s)

/-- Both an empty list and one of several addresses are refused. -/
theorem fpgaIp_eq_ok_iff (env : Environment) (ip : String) :
    env.fpgaIp = .ok ip ↔ ∃ s, env.get Variable.fpgaIps = some s ∧ parseIpList s = [ip] := by
  have listed : env.fpgaIp = .ok ip ↔ env.fpgaIps = [ip] := by
    unfold Environment.fpgaIp
    split
    next none => simp [none]
    next other one => simp [one]
    next several =>
      exact ⟨fun failed => (by cases failed), fun one => absurd one (several ip)⟩
  rw [listed, Environment.fpgaIps]
  cases env.get Variable.fpgaIps with
  | none => simp
  | some s => simp

/-- Addresses are read from exactly the texts that stand for them, and every text stands for
addresses. Lists are put together as their texts are, and a list that was read is read again
from its addresses with commas between. There is an only address just if one is listed. -/
theorem ip_lists_read_back (s : String) :
    (∀ ip ∈ parseIpList s, IpEntry ip) ∧
    (∀ ips, (∀ ip ∈ ips, IpEntry ip) → StandsFor s ips → parseIpList s = ips) ∧
    StandsFor s (parseIpList s) ∧
    (∀ t, parseIpList (s ++ "," ++ t) = parseIpList s ++ parseIpList t) ∧
    parseIpList (String.intercalate "," (parseIpList s)) = parseIpList s ∧
    (∀ (env : Environment) ip, env.fpgaIp = .ok ip ↔
      ∃ listed, env.get Variable.fpgaIps = some listed ∧ parseIpList listed = [ip]) :=
  ⟨ipEntry_of_mem s, fun _ proper stands => parseIpList_of_standsFor stands proper,
    standsFor_parseIpList s, parseIpList_append_comma s, parseIpList_intercalate s,
    fpgaIp_eq_ok_iff⟩

/-- Blanks beyond ASCII, and repetitions that are kept. -/
example : parseIpList "\u00a0b\u3000,, \t,a,b ," = ["b", "a", "b"] := by
  decide +kernel

end Tether
