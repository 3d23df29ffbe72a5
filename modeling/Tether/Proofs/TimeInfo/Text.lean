import Tether.Proofs.Duration.Text
import Tether.Proofs.TimeInfo.Json

/-!
# Time information read back from its text

The text has a line for each field between a heading and a closing bracket: the name of the
field, blanks up to a common width, and the duration. No line holds a line feed of its own, so
the text can be cut into its lines again, and each duration is read off its line exactly.
Therefore no two values have one text.
-/
namespace Tether.TimeInfo

/-- The front of a field's line, which is as long as that of any other field. -/
def Field.label (f : Field) : List Char := '\t' :: (f.name.toList ++ [':']).rightpad 20 ' '

def line (t : TimeInfo) (f : Field) : List Char := f.label ++ (t.field f).text.toList

def lines (t : TimeInfo) : List (List Char) :=
  "ConnectionTimeInfo(".toList :: (Field.all.map t.line ++ [[')']])

/-- The nanoseconds shown in the line of a field. -/
def shown? (s : String) (f : Field) : Option Nat :=
  (s.toList.splitOn '\n')[f.place + 1]?.bind fun l => Duration.shown? (l.drop f.label.length)

theorem Field.labels :
    encode.label = "\tencode_duration:    ".toList ∧
      decode.label = "\tdecode_duration:    ".toList ∧
      commit.label = "\tcommit_duration:    ".toList ∧
      execution.label = "\texecution_duration: ".toList := by
  decide

theorem text_eq (t : TimeInfo) : t.text.toList = ['\n'].intercalate t.lines := by
  obtain ⟨encode, decode, commit, execution⟩ := Field.labels
  have heading : "ConnectionTimeInfo(\n".toList = "ConnectionTimeInfo(".toList ++ ['\n'] := rfl
  have feed : "\n".toList = ['\n'] := rfl
  have closing : "\n)".toList = ['\n', ')'] := rfl
  unfold text
  simp only [String.toList_append, heading, feed, closing, ← encode, ← decode, ← commit,
    ← execution]
  simp only [lines, line, Field.all, field, List.map_cons, List.map_nil,
    List.intercalate_cons_cons, List.intercalate_singleton, List.cons_append, List.nil_append,
    List.append_assoc]

theorem newline_not_mem_lines (t : TimeInfo) : ∀ l ∈ t.lines, '\n' ∉ l := by
  have label : ∀ f : Field, '\n' ∉ f.label := fun f => by cases f <;> decide
  have body : ∀ f : Field, '\n' ∉ t.line f := fun f found =>
    (List.mem_append.mp found).elim (label f) (t.field f).newline_not_mem_text
  intro l found
  rcases List.mem_cons.mp found with rfl | found
  · decide
  · rcases List.mem_append.mp found with inner | last
    · obtain ⟨f, -, rfl⟩ := List.mem_map.mp inner
      exact body f
    · rw [List.mem_singleton.mp last]
      decide

/-- Cutting the text at its line feeds gives its lines. -/
theorem splitOn_text (t : TimeInfo) : t.text.toList.splitOn '\n' = t.lines := by
  rw [text_eq, List.splitOn_intercalate '\n' t.newline_not_mem_lines (List.cons_ne_nil _ _)]

theorem getElem?_lines (t : TimeInfo) (f : Field) : t.lines[f.place + 1]? = some (t.line f) := by
  cases f <;> rfl

theorem shown?_text (t : TimeInfo) (f : Field) :
    shown? t.text f = some (t.field f).toNanos := by
  rw [shown?, splitOn_text, getElem?_lines, Option.bind_some, line, List.drop_left]
  exact Duration.shown?_text (t.field f)

/-- Every duration is shown exactly in the largest unit in which it is at least one, each in the
line of its field, and is read back from there; so equal texts are of equal values. -/
theorem text_loses_nothing :
    (∀ d : Duration, ∃ whole fraction u,
      Duration.Shows d.text.toList d.toNanos whole fraction u) ∧
    (∀ t : TimeInfo, t.text.toList.splitOn '\n' = t.lines) ∧
    (∀ (t : TimeInfo) (f : Field), shown? t.text f = some (t.field f).toNanos) ∧
    Function.Injective text := by
  refine ⟨Duration.exists_shows_text, splitOn_text, shown?_text, fun t t' same => ?_⟩
  refine eq_of_toNanos_eq fun f => ?_
  have read := shown?_text t f
  rw [same, shown?_text t' f] at read
  exact (Option.some.inj read).symm

end Tether.TimeInfo
