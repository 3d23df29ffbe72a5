import Tether.Text.Blank

/-!
# Texts between blanks

Trimming gives the only text without a blank at either end that lies between blanks. So what
is said of a trimmed text is said of that text however it is padded.
-/
namespace Tether.Text

/-- A front of one kind of characters is taken whole, and no more than that, where what
follows does not begin with this kind. -/
theorem takeWhile_append_of_stop (p : Char → Bool) (front rest : List Char)
    (inside : ∀ c ∈ front, p c = true) (stop : ∀ c, rest.head? = some c → p c = false) :
    (front ++ rest).takeWhile p = front := by
  rw [List.takeWhile_append_of_pos inside]
  cases rest with
  | nil => simp
  | cons c rest => simp [stop c rfl]

theorem dropWhile_append_of_stop (p : Char → Bool) (front rest : List Char)
    (inside : ∀ c ∈ front, p c = true) (stop : ∀ c, rest.head? = some c → p c = false) :
    (front ++ rest).dropWhile p = rest := by
  rw [List.dropWhile_append_of_pos inside]
  cases rest with
  | nil => rfl
  | cons c rest => simp [stop c rfl]

/-- A text that consists of blanks, if of anything. -/
def Blank (s : List Char) : Prop := ∀ c ∈ s, isBlank c = true

/-- A text with blanks, if any, in front of it and behind it. -/
def Padded (core s : List Char) : Prop :=
  ∃ front back, Blank front ∧ Blank back ∧ s = front ++ core ++ back

/-- A text that neither begins nor ends with a blank. -/
structure Trimmed (s : List Char) : Prop where
  first : ∀ c, s.head? = some c → isBlank c = false
  last : ∀ c, s.getLast? = some c → isBlank c = false

theorem Padded.refl (s : List Char) : Padded s s :=
  ⟨[], [], by simp [Blank], by simp [Blank], by simp⟩

theorem Blank.reverse {s : List Char} (blank : Blank s) : Blank s.reverse :=
  fun c found => blank c (List.mem_reverse.mp found)

theorem Blank.append {s t : List Char} (first : Blank s) (second : Blank t) : Blank (s ++ t) :=
  fun c found => (List.mem_append.mp found).elim (first c) (second c)

/-- A text without blanks is trimmed. -/
theorem trimmed_of_visible {s : List Char} (visible : ∀ c ∈ s, isBlank c = false) :
    Trimmed s where
  first c front := visible c (List.mem_of_head? front)
  last c back := visible c (List.mem_of_getLast? back)

theorem trimEnd_append (s back : List Char) (blank : Blank back)
    (last : ∀ c, s.getLast? = some c → isBlank c = false) : trimEnd (s ++ back) = s := by
  rw [trimEnd, List.reverse_append, dropWhile_append_of_stop isBlank _ _ blank.reverse,
    List.reverse_reverse]
  intro c front
  rw [List.head?_reverse] at front
  exact last c front

theorem trim_of_blank {s : List Char} (blank : Blank s) : trim s = [] := by
  have dropped := dropWhile_append_of_stop isBlank s [] blank (by simp)
  rw [List.append_nil] at dropped
  rw [trim, dropped]
  rfl

theorem trim_of_padded {core s : List Char} (trimmed : Trimmed core) (padded : Padded core s) :
    trim s = core := by
  obtain ⟨front, back, ahead, behind, rfl⟩ := padded
  cases core with
  | nil =>
    rw [List.append_nil]
    exact trim_of_blank (ahead.append behind)
  | cons c rest =>
    rw [trim, List.append_assoc, dropWhile_append_of_stop isBlank front _ ahead,
      trimEnd_append _ back behind trimmed.last]
    exact trimmed.first

theorem blank_takeWhile (s : List Char) : Blank (s.takeWhile isBlank) :=
  List.all_eq_true.mp List.all_takeWhile

/-- A text is what its trimming leaves at the end, and blanks. -/
theorem exists_trimEnd_append (s : List Char) : ∃ back, Blank back ∧ s = trimEnd s ++ back := by
  refine ⟨(s.reverse.takeWhile isBlank).reverse, (blank_takeWhile _).reverse, ?_⟩
  rw [trimEnd, ← List.reverse_append, List.takeWhile_append_dropWhile, List.reverse_reverse]

theorem trim_padded (s : List Char) : Padded (trim s) s := by
  obtain ⟨back, behind, cut⟩ := exists_trimEnd_append (s.dropWhile isBlank)
  refine ⟨s.takeWhile isBlank, back, blank_takeWhile s, behind, ?_⟩
  rw [List.append_assoc, trim, ← cut, List.takeWhile_append_dropWhile]

theorem blank_of_trim_eq_nil {s : List Char} (nothing : trim s = []) : Blank s := by
  obtain ⟨front, back, ahead, behind, text⟩ := trim_padded s
  rw [nothing, List.append_nil] at text
  rw [text]
  exact ahead.append behind

theorem isBlank_of_head?_dropWhile (s : List Char) (c : Char)
    (front : (s.dropWhile isBlank).head? = some c) : isBlank c = false := by
  have stopped := List.head?_dropWhile_not isBlank s
  rw [front] at stopped
  exact stopped

theorem trim_trimmed (s : List Char) : Trimmed (trim s) where
  first c front := by
    obtain ⟨back, -, cut⟩ := exists_trimEnd_append (s.dropWhile isBlank)
    apply isBlank_of_head?_dropWhile s
    rw [cut, List.head?_append]
    rw [trim] at front
    rw [front]
    rfl
  last c back := by
    rw [trim, trimEnd, List.getLast?_reverse] at back
    exact isBlank_of_head?_dropWhile _ c back

end Tether.Text
