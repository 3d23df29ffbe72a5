import Tether.Json.Value
import Tether.Proofs.Json.Token

/-!
# The values of tokens

Tokens denote a value if they are read as it in front of any others, as soon as the bound on
calls allows two of them for each token. Arrays denote the list of what their elements denote,
and objects the list of their members in order, whatever the elements and members are.
-/
namespace Tether.Json

/-- Tokens that are read as a value wherever they stand. -/
def Denotes (ts : List Token) (v : Value) : Prop :=
  ∀ n rest, 2 * ts.length < n → valueWithin n (ts ++ rest) = some (v, rest)

theorem denotes_natural (n : Nat) : Denotes [.natural n] (.natural n) := by
  intro m rest bound
  cases m with
  | zero => omega
  | succ m => rfl

/-- The first token of a value closes nothing. -/
theorem Denotes.exists_cons {ts : List Token} {v : Value} (denotes : Denotes ts v) :
    ∃ t us, ts = t :: us ∧ t ≠ .closeBracket := by
  have read := denotes (2 * ts.length + 1) [] (Nat.lt_succ_self _)
  cases ts with
  | nil => cases read
  | cons t us =>
    refine ⟨t, us, rfl, ?_⟩
    rintro rfl
    cases read

def separated (pieces : List (List Token)) : List Token := [Token.comma].intercalate pieces

@[simp] theorem separated_singleton (a : List Token) : separated [a] = a :=
  List.intercalate_singleton

@[simp] theorem separated_cons_cons (a b : List Token) (rest : List (List Token)) :
    separated (a :: b :: rest) = a ++ .comma :: separated (b :: rest) := by
  rw [separated, List.intercalate_cons_cons, List.append_assoc]
  rfl

theorem mem_separated {pieces : List (List Token)} {t : Token} (found : t ∈ separated pieces) :
    t = .comma ∨ ∃ p ∈ pieces, t ∈ p := by
  induction pieces with
  | nil => simp [separated] at found
  | cons p rest ih =>
    cases rest with
    | nil =>
      rw [separated_singleton] at found
      exact .inr ⟨p, List.mem_cons_self, found⟩
    | cons q rest =>
      rw [separated_cons_cons, List.mem_append, List.mem_cons] at found
      rcases found with here | comma | later
      · exact .inr ⟨p, List.mem_cons_self, here⟩
      · exact .inl comma
      · rcases ih later with comma | ⟨piece, inside, there⟩
        · exact .inl comma
        · exact .inr ⟨piece, List.mem_cons_of_mem p inside, there⟩

/-- Commas keep numbers apart, and so does what closes the last piece. -/
theorem apart_separated (pieces : List (List Token)) (apart : ∀ p ∈ pieces, Apart p)
    (close : Token) (other : close.isNumber = false) : Apart (separated pieces ++ [close]) := by
  have closed : Apart [close] := apart_cons other trivial
  induction pieces with
  | nil => exact closed
  | cons p rest ih =>
    obtain ⟨this, others⟩ := List.forall_mem_cons.mp apart
    cases rest with
    | nil =>
      rw [separated_singleton]
      exact apart_append this other closed
    | cons q rest =>
      rw [separated_cons_cons, List.append_assoc]
      exact apart_append this rfl (apart_cons rfl (ih others))

/-- By induction on the elements. An element takes one call, and its comma leaves one more. -/
theorem elementsWithin_of_denotes (elements : List (List Token × Value)) (any : elements ≠ [])
    (denote : ∀ e ∈ elements, Denotes e.1 e.2) (n : Nat) (rest : List Token)
    (bound : 2 * ((separated (elements.map (·.1))).length + 1) < n) :
    elementsWithin n (separated (elements.map (·.1)) ++ .closeBracket :: rest) =
      some (elements.map (·.2), rest) := by
  induction elements generalizing n with
  | nil => exact absurd rfl any
  | cons e others ih =>
    obtain ⟨this, later⟩ := List.forall_mem_cons.mp denote
    cases n with
    | zero => omega
    | succ n =>
      cases others with
      | nil =>
        simp only [List.map_cons, List.map_nil, separated_singleton] at bound ⊢
        rw [elementsWithin, this n _ (by omega)]
      | cons f others =>
        simp only [List.map_cons, separated_cons_cons, List.length_append, List.length_cons]
          at bound ih ⊢
        rw [elementsWithin, List.append_assoc, this n _ (by omega)]
        dsimp only [List.cons_append]
        rw [ih (List.cons_ne_nil _ _) later n (by omega)]
        rfl

/-- Arrays are read element by element, each as it would be alone. -/
theorem denotes_array (elements : List (List Token × Value)) (any : elements ≠ [])
    (denote : ∀ e ∈ elements, Denotes e.1 e.2) :
    Denotes (.openBracket :: (separated (elements.map (·.1)) ++ [.closeBracket]))
      (.array (elements.map (·.2))) := by
  intro n rest bound
  simp only [List.length_cons, List.length_append, List.length_nil] at bound
  cases n with
  | zero => omega
  | succ n =>
    have read := elementsWithin_of_denotes elements any denote n rest (by omega)
    rw [List.cons_append, List.append_assoc, List.singleton_append, valueWithin, read]
    · rfl
    · -- The first element does not close the array.
      intro tail closes
      match elements with
      | e :: others =>
        obtain ⟨t, us, written, opens⟩ := (denote e List.mem_cons_self).exists_cons
        cases others with
        | nil =>
          rw [List.map_cons, List.map_nil, separated_singleton, written] at closes
          exact opens (List.cons.inj closes).1
        | cons f others =>
          rw [List.map_cons, List.map_cons, separated_cons_cons, written] at closes
          exact opens (List.cons.inj closes).1

theorem characters?_map_char (cs : List Char) : characters? (cs.map .char) = some cs := by
  induction cs with
  | nil => rfl
  | cons c cs ih =>
    rw [List.map_cons, characters?, ih]
    rfl

theorem text?_plain (text : String) : text? (text.toList.map .char) = some text := by
  rw [text?, characters?_map_char, Option.map_some, String.ofList_toList]

/-- A name, the tokens of its value and the value. -/
abbrev Member := String × List Token × Value

/-- A member as it stands in an object. -/
def Member.tokens (m : Member) : List Token := .plain m.1 :: .colon :: m.2.1

/-- By induction on the members, as for elements. -/
theorem membersWithin_of_denotes (members : List Member) (any : members ≠ [])
    (denote : ∀ m ∈ members, Denotes m.2.1 m.2.2) (n : Nat) (rest : List Token)
    (bound : 2 * ((separated (members.map Member.tokens)).length + 1) < n) :
    membersWithin n (separated (members.map Member.tokens) ++ .closeBrace :: rest) =
      some (members.map fun m => (some m.1, m.2.2), rest) := by
  induction members generalizing n with
  | nil => exact absurd rfl any
  | cons m others ih =>
    obtain ⟨this, later⟩ := List.forall_mem_cons.mp denote
    cases n with
    | zero => omega
    | succ n =>
      cases others with
      | nil =>
        simp only [List.map_cons, List.map_nil, separated_singleton, Member.tokens, Token.plain,
          List.cons_append, List.length_cons] at bound ⊢
        rw [membersWithin, this n _ (by omega), text?_plain]
      | cons m' others =>
        simp only [List.map_cons, separated_cons_cons, List.length_append, List.length_cons,
          Member.tokens, Token.plain, List.cons_append] at bound ih ⊢
        rw [membersWithin, List.append_assoc, this n _ (by omega)]
        dsimp only [List.cons_append]
        rw [ih (List.cons_ne_nil _ _) later n (by omega), text?_plain]
        rfl

theorem denotes_object (members : List Member) (any : members ≠ [])
    (denote : ∀ m ∈ members, Denotes m.2.1 m.2.2) :
    Denotes (.openBrace :: (separated (members.map Member.tokens) ++ [.closeBrace]))
      (.object (members.map fun m => (some m.1, m.2.2))) := by
  intro n rest bound
  simp only [List.length_cons, List.length_append, List.length_nil] at bound
  cases n with
  | zero => omega
  | succ n =>
    have read := membersWithin_of_denotes members any denote n rest (by omega)
    rw [List.cons_append, List.append_assoc, List.singleton_append, valueWithin, read]
    · rfl
    · -- The first token is a name.
      intro tail closes
      match members with
      | [m] => cases closes
      | m :: m' :: others => cases closes

/-- A text is read as the value that its tokens denote. -/
theorem parse?_of_spelled {s : String} {ts : List Token} {v : Value}
    (spelled : Spelled ts s.toList) (apart : Apart ts) (denotes : Denotes ts v) :
    parse? s = some v := by
  have read := denotes (2 * ts.length + 1) [] (Nat.lt_succ_self _)
  rw [List.append_nil] at read
  rw [parse?, tokens?_of_spelled spelled apart]
  dsimp only
  rw [read]

end Tether.Json
