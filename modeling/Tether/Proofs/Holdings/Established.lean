import Tether.Proofs.Connector.Aim
import Tether.Proofs.Holdings.Balance

/-!
# Established links are fresh

There are many ways to a link, and all of them end in one connect. So every link that is
handed over is as that connect left it: open over its transport, and without any time spent
on its behalf. What is shown of a fresh link and all that is done with it later holds of
every link that a program can come by.
-/
namespace Tether

open Link

variable {σ : Type}

namespace NetworkConnector

theorem connectTo_fresh (net : Fabric σ) (c : NetworkConnector) (s : Selection) (w : World σ)
    (l : Link) (handed : (c.connectTo net s w).1 = .done l) : ∃ kind t, l = fresh kind t := by
  obtain ⟨socket, made⟩ := (connectTo_reaches net c s w).2 l handed
  exact ⟨s.kind, ⟨socket, s.peer c.config⟩, made⟩

theorem answer_fresh (net : Fabric σ) (c : NetworkConnector) (call : Call) (w : World σ)
    (l : Link) (handed : (c.answer net call w).1 = .done l) : ∃ kind t, l = fresh kind t := by
  rw [answer_eq_approach] at handed
  cases aim : call.aim (c.environment w) with
  | error e => rw [aim] at handed; cases handed
  | ok s =>
    rw [aim] at handed
    cases call with
    | fromEnvironment => exact connectTo_fresh net { config := c.config } s _ l handed
    | _ => exact connectTo_fresh net { config := c.config } s w l handed

theorem Opens.fresh {net : Fabric σ} {c : NetworkConnector} {w after : World σ}
    {selections : List Selection} {ls : List Link} (h : Opens net c w selections ls after) :
    ∀ l ∈ ls, ∃ kind t, l = Link.fresh kind t := by
  induction h with
  | none w => exact fun l found => (by cases found)
  | @more w middle after s l rest ls first others ih =>
    intro other found
    rcases List.mem_cons.mp found with rfl | later
    · exact connectTo_fresh net c s w other (by rw [first])
    · exact ih other later

theorem connectAll_fresh (net : Fabric σ) (c : NetworkConnector) (limit : Option Nat)
    (w : World σ) (ls : List Link) (handed : (c.connectAll net limit w).1 = .done ls) :
    ∀ l ∈ ls, ∃ kind t, l = fresh kind t := by
  cases selected : (c.environment w).selectAll limit with
  | error e => rw [connectAll, selected] at handed; cases handed
  | ok selections =>
    rcases opens_or_stops net c selections w with
      ⟨opened, after, opens⟩ | ⟨before, s, rest, opened, answer, after, rfl, stops⟩
    · rw [connectAll_of_opens limit selected opens] at handed
      obtain rfl : opened = ls := Outcome.done.inj handed
      exact opens.fresh
    · rw [connectAll_of_stops limit selected stops] at handed
      cases answer with
      | done l => exact absurd rfl (stops.unopened l)
      | _ => cases handed

end NetworkConnector

/-- However a link was come by, it is handed over right after it was opened. -/
theorem Way.go_fresh (net : Fabric σ) (c : NetworkConnector) (way : Way) (w : World σ) (l : Link)
    (handed : (way.go net c w).1 = .done l) : ∃ kind t, l = fresh kind t := by
  have reached := fun s => NetworkConnector.connectTo_fresh net c s w l
  cases way with
  | opening kind endpoint =>
    obtain ⟨socket, -, made⟩ := connect_done net kind endpoint c.config w l handed
    exact ⟨kind, ⟨socket, endpoint⟩, made⟩
  | arqTo ip => exact reached (.hardware ip) handed
  | arq env => exact NetworkConnector.answer_fresh net { c with env := some env } .arq w l handed
  | simTo endpoint => exact reached (.simulation endpoint) handed
  | sim env => exact NetworkConnector.answer_fresh net { c with env := some env } .sim w l handed
  | daemonTo endpoint => exact reached (.daemon endpoint) handed
  | daemon env =>
    simp only [go, connectDaemon] at handed
    split at handed
    next => cases handed
    next => cases handed
    next endpoint _ => exact reached (.daemon endpoint) handed
  | selection s => exact reached s handed
  | call asked => exact NetworkConnector.answer_fresh net c asked w l handed

theorem Holdings.Established.fresh {net : Fabric σ} {l : Link} (h : Established net l) :
    ∃ kind t, l = Link.fresh kind t := by
  cases h with
  | single c way w handed => exact way.go_fresh net c w l handed
  | listed c limit w ls handed found =>
    exact NetworkConnector.connectAll_fresh net c limit w ls handed l found

end Tether
