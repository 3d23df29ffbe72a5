import Tether.Proofs.Environment.Selection
import Tether.Proofs.Link.Counters
import Tether.Proofs.Link.Retry

/-!
# A list of connections is all or nothing

Backends are connected to in the order in which they were selected, each when the one
before has succeeded. If all succeed, the links come out in that order. At the first that
does not, its answer comes out instead: the links opened before it are dropped, no backend
behind it is dialled, and on the counters nothing is left open.
-/
namespace Tether

variable {σ : Type}

namespace Selection

def kind : Selection → Kind
  | daemon _ => .quiggeldy
  | hardware _ => .arq
  | simulation _ => .sim

def peer (config : Config) : Selection → Endpoint
  | daemon endpoint => endpoint
  | hardware ip => ⟨ip, config.arqPort⟩
  | simulation endpoint => endpoint

/-- How often a backend is dialled at most before it counts as not reached. -/
def tries (config : Config) : Selection → Nat
  | daemon _ => config.limit
  | hardware _ => 1
  | simulation _ => 1

/-- What is dialled if backends are tried in order: each of them, before the next one, at
least once and at most as often as it may be tried. -/
inductive Dialled (config : Config) : List Selection → List (Kind × Endpoint) → Prop
  | none : Dialled config [] []
  | more {s : Selection} {rest : List Selection} {n : Nat} {dials : List (Kind × Endpoint)}
      (once : 1 ≤ n) (most : n ≤ s.tries config) (others : Dialled config rest dials) :
      Dialled config (s :: rest) (List.replicate n (s.kind, s.peer config) ++ dials)

/-- Two runs of backends that are dialled one after the other are one run. -/
theorem Dialled.append {config : Config} {first second : List Selection}
    {dials later : List (Kind × Endpoint)} (h : Dialled config first dials)
    (h' : Dialled config second later) : Dialled config (first ++ second) (dials ++ later) := by
  induction h with
  | none => exact h'
  | more once most _ ih =>
    rw [List.append_assoc]
    exact .more once most ih

end Selection

namespace NetworkConnector

open Link

/-- Connecting to a backend dials its endpoint and no other, and the link that comes out is
one of its kind to there. -/
theorem connectTo_reaches (net : Fabric σ) (c : NetworkConnector) (s : Selection) (w : World σ) :
    (∃ n, 1 ≤ n ∧ n ≤ s.tries c.config ∧ (c.connectTo net s w).2.journal.dials =
      w.journal.dials ++ List.replicate n (s.kind, s.peer c.config)) ∧
    ∀ l, (c.connectTo net s w).1 = .done l →
      ∃ socket, l = fresh s.kind ⟨socket, s.peer c.config⟩ := by
  have once : ∀ kind endpoint, (∃ n, 1 ≤ n ∧ n ≤ 1 ∧
      (connect net kind endpoint c.config w).2.journal.dials =
        w.journal.dials ++ List.replicate n (kind, endpoint)) ∧
      ∀ l, (connect net kind endpoint c.config w).1 = .done l →
        ∃ socket, l = fresh kind ⟨socket, endpoint⟩ := by
    intro kind endpoint
    rw [connect_eq_of_reply]
    exact ⟨⟨1, Nat.le_refl 1, Nat.le_refl 1, trace_dials _ _ _ _⟩,
      fun l => outcome_done kind endpoint c.config _ l⟩
  cases s with
  | daemon endpoint =>
    obtain ⟨⟨attempts, errors, announced, some, most, tried⟩, result⟩ :=
      connectDaemonTo_within_limit net endpoint c.config w
    refine ⟨⟨attempts, some, most, tried.dials⟩, fun l made => ?_⟩
    change (connectDaemonTo net c.config endpoint w).1 = .done l at made
    rcases result with ⟨socket, done⟩ | ⟨n, last, -, failed⟩ | never
    · rw [done] at made
      exact ⟨socket, (Outcome.done.inj made).symm⟩
    · rw [failed] at made
      cases made
    · rw [never] at made
      cases made
  | hardware ip => exact once .arq ⟨ip, c.config.arqPort⟩
  | simulation endpoint => exact once .sim endpoint

/-- Connects to backends that succeed one after another, with their links. -/
inductive Opens (net : Fabric σ) (c : NetworkConnector) :
    World σ → List Selection → List Link → World σ → Prop
  | none (w : World σ) : Opens net c w [] [] w
  | more {w middle after : World σ} {s : Selection} {l : Link} {rest : List Selection}
      {ls : List Link} (first : c.connectTo net s w = (.done l, middle))
      (others : Opens net c middle rest ls after) : Opens net c w (s :: rest) (l :: ls) after

/-- The first backend that cannot be connected to, with the links that were opened before,
the answer, and the worlds before and after the attempt. -/
structure Stops (net : Fabric σ) (c : NetworkConnector) (w : World σ) (before : List Selection)
    (s : Selection) (ls : List Link) (answer : Outcome Link) (after : World σ) : Prop where
  opens : ∃ middle, Opens net c w before ls middle ∧ c.connectTo net s middle = (answer, after)
  unopened : ∀ l, answer ≠ .done l

variable {net : Fabric σ} {c : NetworkConnector} {w after : World σ}
  {selections before rest : List Selection} {s : Selection} {ls : List Link}
  {answer : Outcome Link}

/-- Links come in the order of their backends, each to its own place and open. -/
theorem Opens.links (h : Opens net c w selections ls after) :
    ls.map (fun l => (l.kind, l.peer)) = selections.map (fun s => (s.kind, s.peer c.config)) ∧
      ∀ l ∈ ls, l.state = .opened := by
  induction h with
  | none w => exact ⟨rfl, fun l found => (by cases found)⟩
  | @more w middle after s l rest ls first others ih =>
    obtain ⟨socket, rfl⟩ := (connectTo_reaches net c s w).2 l (by rw [first])
    refine ⟨congrArg _ ih.1, fun l found => ?_⟩
    rcases List.mem_cons.mp found with rfl | later
    · rfl
    · exact ih.2 l later

/-- Even where all succeed, a daemon may have been dialled more than once. -/
theorem Opens.dials (h : Opens net c w selections ls after) :
    ∃ dials, Selection.Dialled c.config selections dials ∧
      after.journal.dials = w.journal.dials ++ dials := by
  induction h with
  | none w => exact ⟨[], .none, (List.append_nil _).symm⟩
  | @more w middle after s l rest ls first others ih =>
    obtain ⟨n, once, most, dialled⟩ := (connectTo_reaches net c s w).1
    obtain ⟨dials, inOrder, later⟩ := ih
    rw [first] at dialled
    exact ⟨_, .more once most inOrder, by rw [later, dialled, List.append_assoc]⟩

/-- Every list of backends opens as a whole or stops at one of them. -/
theorem opens_or_stops (net : Fabric σ) (c : NetworkConnector) (selections : List Selection)
    (w : World σ) :
    (∃ ls after, Opens net c w selections ls after) ∨
      ∃ before s rest ls answer after, selections = before ++ s :: rest ∧
        Stops net c w before s ls answer after := by
  induction selections generalizing w with
  | nil => exact .inl ⟨[], w, .none w⟩
  | cons s rest ih =>
    rcases first : c.connectTo net s w with ⟨answer, middle⟩
    by_cases made : ∃ l, answer = .done l
    · obtain ⟨l, rfl⟩ := made
      rcases ih middle with ⟨ls, after, opens⟩ |
        ⟨before, s', rest', ls, answer, after, rfl, ⟨last, opens, stopped⟩, unopened⟩
      · exact .inl ⟨l :: ls, after, .more first opens⟩
      · exact .inr ⟨s :: before, s', rest', l :: ls, answer, after, rfl,
          ⟨last, .more first opens, stopped⟩, unopened⟩
    · exact .inr ⟨[], s, rest, [], answer, middle, rfl, ⟨w, .none w, first⟩,
        fun l opened => made ⟨l, opened⟩⟩

/-- While backends open, their links are added to those opened so far. -/
theorem connectEach_of_opens (h : Opens net c w before ls after) (opened : List Link) :
    c.connectEach net (before ++ rest) opened w =
      c.connectEach net rest (opened ++ ls) after := by
  induction h generalizing opened with
  | none w => rw [List.nil_append, List.append_nil]
  | @more w middle after s l others ls first _ ih =>
    rw [List.cons_append, connectEach, first]
    dsimp only
    rw [ih, List.append_assoc]
    rfl

/-- The answer of the backend that does not open is that of the whole. -/
theorem connectEach_of_stops (h : Stops net c w before s ls answer after) :
    c.connectEach net (before ++ s :: rest) [] w =
      (answer.map fun l => [l], releaseAll net ls after) := by
  obtain ⟨⟨middle, opens, stopped⟩, unopened⟩ := h
  rw [connectEach_of_opens opens, connectEach, stopped]
  cases answer with
  | done l => exact absurd rfl (unopened l)
  | failed e => rfl
  | panicked p => rfl
  | pending => rfl

theorem releaseAll_dials (net : Fabric σ) (ls : List Link) (w : World σ) :
    (releaseAll net ls w).journal.dials = w.journal.dials := by
  induction ls generalizing w with
  | nil => rfl
  | cons l rest ih =>
    refine (ih (l.release net w)).trans ?_
    unfold release
    by_cases state : l.state = .closed <;> cases l.transport <;>
      simp [state, World.count, World.notify, Journal.dials, Journal.seen_cons]

/-- Every open link is dropped once, in the order in which they were opened. -/
theorem releaseAll_releases (net : Fabric σ) (ls : List Link) (w : World σ)
    (opened : ∀ l ∈ ls, l.state = .opened) :
    (releaseAll net ls w).journal.releases =
      w.journal.releases ++ ls.map fun l => (l.kind, l.peer) := by
  induction ls generalizing w with
  | nil => exact (List.append_nil _).symm
  | cons l rest ih =>
    have state := opened l List.mem_cons_self
    have first : (l.release net w).journal.releases = w.journal.releases ++ [(l.kind, l.peer)] := by
      unfold release
      cases l.transport <;>
        simp [state, World.count, World.notify, Journal.releases, Journal.seen_cons]
    have others := ih (l.release net w) fun l' found => opened l' (List.mem_cons_of_mem l found)
    rw [first, List.append_assoc] at others
    exact others

/-- The sockets of the links are given back in order. -/
theorem releaseAll_net (net : Fabric σ) (ls : List Link) (w : World σ) :
    (releaseAll net ls w).net =
      (ls.filterMap (·.transport)).foldl (fun s t => net.release t.socket s) w.net := by
  induction ls generalizing w with
  | nil => rfl
  | cons l rest ih =>
    refine (ih (l.release net w)).trans ?_
    unfold release
    by_cases state : l.state = .closed <;> cases transport : l.transport <;>
      simp [state, transport, Transport.release]

/-- What connecting to all backends of the environment does. -/
structure AllOrNothing (net : Fabric σ) (c : NetworkConnector) (limit : Option Nat)
    (w : World σ) (r : Outcome (List Link) × World σ) : Prop where
  /-- Without a selection nothing is done. -/
  refused : ∀ e, (c.environment w).selectAll limit = .error e → r = (.failed e, w)
  /-- If every backend opens, their links come out in order. -/
  complete : ∀ selections ls after, (c.environment w).selectAll limit = .ok selections →
    Opens net c w selections ls after →
    r = (.done ls, after) ∧
      ls.map (fun l => (l.kind, l.peer)) = selections.map (fun s => (s.kind, s.peer c.config)) ∧
      (∀ l ∈ ls, l.state = .opened) ∧
      ∃ dials, Selection.Dialled c.config selections dials ∧
        r.2.journal.dials = w.journal.dials ++ dials
  /-- If one does not, its answer comes out, an error as it is. The links before it are
  dropped, and the backends behind it are not dialled. -/
  stopped : ∀ before s rest ls answer after,
    (c.environment w).selectAll limit = .ok (before ++ s :: rest) →
    Stops net c w before s ls answer after →
    r = (answer.map fun l => [l], releaseAll net ls after) ∧
      ls.map (fun l => (l.kind, l.peer)) = before.map (fun s => (s.kind, s.peer c.config)) ∧
      r.2.journal.releases =
        after.journal.releases ++ before.map (fun s => (s.kind, s.peer c.config)) ∧
      r.2.net = (ls.filterMap (·.transport)).foldl (fun s t => net.release t.socket s) after.net ∧
      (∀ k, r.2.journal.balance k = w.journal.balance k) ∧
      ∃ dials, Selection.Dialled c.config (before ++ [s]) dials ∧
        r.2.journal.dials = w.journal.dials ++ dials
  decided : ∀ selections, (c.environment w).selectAll limit = .ok selections →
    (∃ ls after, Opens net c w selections ls after) ∨
      ∃ before s rest ls answer after, selections = before ++ s :: rest ∧
        Stops net c w before s ls answer after
  limited : ∀ n selections, limit = some n →
    (c.environment w).selectAll limit = .ok selections → selections.length ≤ n
  empty : ∀ selections, limit = some 0 →
    (c.environment w).selectAll none = .ok selections → r = (.done [], w)

theorem connectAll_of_selected (net : Fabric σ) (c : NetworkConnector) (limit : Option Nat)
    (w : World σ) (selections : List Selection)
    (selected : (c.environment w).selectAll limit = .ok selections) :
    c.connectAll net limit w = c.connectEach net selections [] w := by
  rw [connectAll, selected]

theorem connectAll_of_opens (limit : Option Nat)
    (selected : (c.environment w).selectAll limit = .ok selections)
    (h : Opens net c w selections ls after) : c.connectAll net limit w = (.done ls, after) := by
  have whole : c.connectEach net (selections ++ []) [] w = c.connectEach net [] ls after :=
    connectEach_of_opens h []
  rw [List.append_nil] at whole
  rw [connectAll_of_selected net c limit w selections selected, whole]
  rfl

/-- If one backend does not answer, the links in front of it are dropped and nothing behind
it is dialled. -/
theorem connectAll_of_stops (limit : Option Nat)
    (selected : (c.environment w).selectAll limit = .ok (before ++ s :: rest))
    (h : Stops net c w before s ls answer after) :
    c.connectAll net limit w = (answer.map fun l => [l], releaseAll net ls after) := by
  rw [connectAll_of_selected net c limit w _ selected]
  exact connectEach_of_stops h

/-- What was opened before a failure is closed again on the counters. -/
theorem connectAll_balance_of_stops (limit : Option Nat)
    (selected : (c.environment w).selectAll limit = .ok (before ++ s :: rest))
    (h : Stops net c w before s ls answer after) (k : Kind) :
    (c.connectAll net limit w).2.journal.balance k = w.journal.balance k := by
  have counted := connectAll_balance net k c limit w
  have unopened := h.unopened
  rw [connectAll_of_stops limit selected h] at counted ⊢
  cases answer with
  | done l => exact absurd rfl (unopened l)
  | failed e => exact counted.trans (Int.add_zero _)
  | panicked p => exact counted.trans (Int.add_zero _)
  | pending => exact counted.trans (Int.add_zero _)

/-- The dials end with those of the backend that did not open. -/
theorem Stops.dials (h : Stops net c w before s ls answer after) :
    ∃ dials, Selection.Dialled c.config (before ++ [s]) dials ∧
      after.journal.dials = w.journal.dials ++ dials := by
  obtain ⟨⟨middle, opens, stopped⟩, -⟩ := h
  obtain ⟨dials, inOrder, dialled⟩ := opens.dials
  obtain ⟨n, once, most, last⟩ := (connectTo_reaches net c s middle).1
  rw [stopped] at last
  exact ⟨_, inOrder.append (.more once most .none), by
    rw [last, dialled, List.append_assoc, List.append_nil]⟩

/-- Over every network, in every environment and for every limit, connecting to a list of
backends is all or nothing. -/
theorem connectAll_all_or_nothing (net : Fabric σ) (c : NetworkConnector) (limit : Option Nat)
    (w : World σ) : AllOrNothing net c limit w (c.connectAll net limit w) where
  refused e failed := by rw [connectAll, failed]
  complete selections ls after selected opens := by
    obtain ⟨links, opened⟩ := opens.links
    obtain ⟨dials, inOrder, dialled⟩ := opens.dials
    have result := connectAll_of_opens limit selected opens
    exact ⟨result, links, opened, dials, inOrder, by rw [result]; exact dialled⟩
  stopped before s rest ls answer after selected stops := by
    obtain ⟨middle, opens, -⟩ := stops.opens
    obtain ⟨links, opened⟩ := opens.links
    obtain ⟨dials, inOrder, dialled⟩ := stops.dials
    have result := connectAll_of_stops limit selected stops
    have balanced := connectAll_balance_of_stops limit selected stops
    refine ⟨result, links, ?_, ?_, balanced, dials, inOrder, ?_⟩
    · rw [result, releaseAll_releases net ls after opened, links]
    · rw [result, releaseAll_net]
    · rw [result, releaseAll_dials]
      exact dialled
  decided selections _ := opens_or_stops net c selections w
  limited n selections cut selected := by
    rw [cut, Environment.selectAll_some] at selected
    cases whole : (c.environment w).selectAll none with
    | error e => rw [whole] at selected; cases selected
    | ok all =>
      rw [whole] at selected
      rw [← Except.ok.inj selected]
      exact List.length_take_le n all
  empty selections cut selected := by
    have nothing : (c.environment w).selectAll limit = .ok [] := by
      rw [cut, Environment.selectAll_some, selected]
      rfl
    rw [connectAll, nothing]
    rfl

/-- Three FPGAs, of which the second does not answer. -/
example :
    let net := playing fun
      | 0 => .connected 7
      | _ => .failed .refused
    let r := connectEach net {} [.hardware "a", .hardware "b", .hardware "c"] [] { net := 0 }
    r.1 = .failed (.io .refused) ∧
      r.2.journal.dials = [(.arq, ⟨"a", 1234⟩), (.arq, ⟨"b", 1234⟩)] ∧
      r.2.journal.releases = [(.arq, ⟨"a", 1234⟩)] := by
  decide

end NetworkConnector
end Tether
