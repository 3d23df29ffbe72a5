import Tether.Proofs.Connector.Aim
import Tether.Proofs.Environment.Process

/-!
# Reading the environment for each request

A connector without an environment of its own reads that of the process, once for each request
and at no other time. So it does what a connector would do that is fixed to the environment of
the moment: the answer, what is asked of the network, and every event are the same. A change of
the environment between two requests is seen by the second. A connector with a fixed
environment never reads that of the process, and whatever happens to it in between, all its
answers stay the same.
-/
namespace Tether

variable {σ : Type}

inductive Request where
  | one (call : Call)
  | backend (s : Selection)
  | all (limit : Option Nat)
  deriving Repr

/-- What happens to a connector and around it. -/
inductive Occurrence (σ : Type) where
  | request (r : Request)
  /-- The network changes, and so does the environment of the process. -/
  | outside (change : σ → σ) (process : ProcessEnvironment)

namespace Occurrence

def process (before : ProcessEnvironment) : Occurrence σ → ProcessEnvironment
  | request _ => before
  | outside _ after => after

def latest (before : ProcessEnvironment) (history : List (Occurrence σ)) : ProcessEnvironment :=
  history.foldl process before

/-- The same occurrence, up to the environment of the process. -/
inductive SameElse : Occurrence σ → Occurrence σ → Prop
  | request (r : Request) : SameElse (.request r) (.request r)
  | outside (change : σ → σ) (p p' : ProcessEnvironment) :
      SameElse (.outside change p) (.outside change p')

end Occurrence

namespace NetworkConnector

open Environment World

/-- Answers a request with the links that are opened for it. -/
def serve (net : Fabric σ) (c : NetworkConnector) (r : Request) (w : World σ) :
    Outcome (List Link) × World σ :=
  match r with
  | .one call => ((c.answer net call w).1.map fun l => [l], (c.answer net call w).2)
  | .backend s => ((c.connectTo net s w).1.map fun l => [l], (c.connectTo net s w).2)
  | .all limit => c.connectAll net limit w

/-- Answers the requests among all that occurs, in order. -/
def serveAll (net : Fabric σ) (c : NetworkConnector) : List (Occurrence σ) → World σ →
    List (Outcome (List Link)) × World σ
  | [], w => ([], w)
  | .outside change process :: rest, w =>
    c.serveAll net rest { w with net := change w.net, process }
  | .request r :: rest, w =>
    let (answer, w) := c.serve net r w
    let (answers, w) := c.serveAll net rest w
    (answer :: answers, w)

/-- A selection made earlier is connected to by the settings alone. -/
theorem connectTo_congr (net : Fabric σ) {c c' : NetworkConnector} (config : c.config = c'.config)
    (s : Selection) : c.connectTo net s = c'.connectTo net s := by
  rw [← connectTo_config net c, ← connectTo_config net c', config]

/-- What becomes of a list of connects once its first backend has answered. -/
def onward (net : Fabric σ) (c : NetworkConnector) (rest : List Selection) (opened : List Link)
    (answer : Outcome Link) (w : World σ) : Outcome (List Link) × World σ :=
  match answer with
  | .done l => c.connectEach net rest (opened ++ [l]) w
  | .failed e => (.failed e, Link.releaseAll net opened w)
  | .panicked p => (.panicked p, Link.releaseAll net opened w)
  | .pending => (.pending, Link.releaseAll net opened w)

/-- The first backend is asked once, and its outcome decides about the rest. -/
theorem connectEach_cons (net : Fabric σ) (c : NetworkConnector) (s : Selection)
    (rest : List Selection) (opened : List Link) (w : World σ) :
    c.connectEach net (s :: rest) opened w =
      onward net c rest opened (c.connectTo net s w).1 (c.connectTo net s w).2 := by
  rw [connectEach]
  obtain ⟨l | e | p | _, after⟩ := c.connectTo net s w
  all_goals rfl

theorem connectEach_congr (net : Fabric σ) {c c' : NetworkConnector}
    (config : c.config = c'.config) (selections : List Selection) (opened : List Link)
    (w : World σ) :
    c.connectEach net selections opened w = c'.connectEach net selections opened w := by
  induction selections generalizing opened w with
  | nil => rfl
  | cons s rest ih =>
    rw [connectEach_cons, connectEach_cons, connectTo_congr net config]
    obtain ⟨l | e | p | _, after⟩ := c'.connectTo net s w
    · exact ih (opened ++ [l]) after
    all_goals rfl

/-- Two connectors with the same settings are told apart by the environment that they go by at
the moment, and by nothing else. -/
theorem serve_congr (net : Fabric σ) (c c' : NetworkConnector) (config : c.config = c'.config)
    (w : World σ) (env : c.environment w = c'.environment w) (r : Request) :
    c.serve net r w = c'.serve net r w := by
  cases r with
  | one call =>
    have same : c.answer net call w = c'.answer net call w := by
      rw [answer_eq_approach, answer_eq_approach, config, env]
    rw [serve, serve, same]
  | backend s => rw [serve, serve, connectTo_congr net config]
  | all limit =>
    rw [serve, serve, connectAll, connectAll, env]
    cases (c'.environment w).selectAll limit with
    | error e => rfl
    | ok selections => exact connectEach_congr net config selections [] w

/-- A connector without an environment does what one does that is fixed to the environment
of the process. -/
theorem serve_reading (net : Fabric σ) (config : Config) (w : World σ) (r : Request) :
    serve net ⟨config, none⟩ r w = serve net ⟨config, some (.ofProcess w.process)⟩ r w :=
  serve_congr net ⟨config, none⟩ ⟨config, some (.ofProcess w.process)⟩ rfl w rfl r

/-- Dropping a link depends on the network and on the link alone. -/
theorem release_detached (net : Fabric σ) (l : Link) :
    Detached fun w : World σ => ((), l.release net w) := by
  intro s
  let logged : Journal := if l.state = .closed then []
    else [.notice (.released l.kind l.peer), .count (.closed l.kind)]
  let after : σ := l.transport.elim s fun t => net.release t.socket s
  refine ⟨(), after, logged, fun process journal => ?_⟩
  unfold Link.release
  cases transport : l.transport <;> by_cases state : l.state = .closed
  all_goals simp [after, logged, transport, state, count, notify, emit, Transport.release]

theorem releaseAll_detached (net : Fabric σ) (ls : List Link) {α : Type} (a : α) :
    Detached fun w : World σ => (a, Link.releaseAll net ls w) := by
  induction ls with
  | nil => exact detached_pure a
  | cons l rest ih => exact (release_detached net l).bind fun _ => ih

/-- What was opened before a failure is dropped over the network, and all else is connects. -/
theorem connectEach_detached (net : Fabric σ) (c : NetworkConnector) (selections : List Selection)
    (opened : List Link) : Detached (c.connectEach net selections opened) := by
  induction selections generalizing opened with
  | nil => exact detached_pure (Outcome.done opened)
  | cons s rest ih =>
    have onwards : ∀ answer, Detached (onward net c rest opened answer) := by
      intro answer
      cases answer with
      | done l => exact ih (opened ++ [l])
      | failed e => exact releaseAll_detached net opened (Outcome.failed e)
      | panicked p => exact releaseAll_detached net opened (Outcome.panicked p)
      | pending => exact releaseAll_detached net opened Outcome.pending
    have whole := funext (connectEach_cons net c s rest opened)
    rw [whole]
    exact (connectTo_detached net c s).bind onwards

theorem single_detached {work : World σ → Outcome Link × World σ} (h : Detached work) :
    Detached fun w => ((work w).1.map fun l => [l], (work w).2) :=
  h.bind fun answer => detached_pure (answer.map fun l => [l])

/-- With an environment that is fixed, the network is all that a request hears. -/
theorem serve_detached (net : Fabric σ) (config : Config) (env : Environment) (r : Request) :
    Detached (serve net ⟨config, some env⟩ r) := by
  cases r with
  | one call =>
    have answered : answer net ⟨config, some env⟩ call = approach net config call (call.aim env) :=
      funext fun w => answer_eq_approach net ⟨config, some env⟩ call w
    have heard := approach_detached net config call (call.aim env)
    rw [← answered] at heard
    exact single_detached heard
  | backend s => exact single_detached (connectTo_detached net ⟨config, some env⟩ s)
  | all limit =>
    cases selected : env.selectAll limit with
    | error e =>
      have refused : serve net ⟨config, some env⟩ (.all limit) = fun w : World σ => (.failed e, w) := by
        funext w
        rw [serve, connectAll, environment, Option.getD_some, selected]
      rw [refused]
      exact detached_pure (Outcome.failed e)
    | ok selections =>
      have connects : serve net ⟨config, some env⟩ (.all limit) =
          connectEach net ⟨config, some env⟩ selections [] := by
        funext w
        rw [serve, connectAll, environment, Option.getD_some, selected]
      rw [connects]
      exact connectEach_detached net ⟨config, some env⟩ selections []

/-- No request changes the environment of the process. -/
theorem serve_process (net : Fabric σ) (c : NetworkConnector) (r : Request) (w : World σ) :
    (c.serve net r w).2.process = w.process := by
  have fixed : c.serve net r w = serve net ⟨c.config, some (c.environment w)⟩ r w :=
    serve_congr net c ⟨c.config, some (c.environment w)⟩ rfl w rfl r
  obtain ⟨answer, after, events, same⟩ := serve_detached net c.config (c.environment w) r w.net
  rw [fixed, same w.process w.journal]

/-- After a history the process has the environment that it was last given, whatever was
served in between. -/
theorem serveAll_process (net : Fabric σ) (c : NetworkConnector) (history : List (Occurrence σ))
    (w : World σ) :
    (c.serveAll net history w).2.process = Occurrence.latest w.process history := by
  induction history generalizing w with
  | nil => rfl
  | cons first rest ih =>
    cases first with
    | request r =>
      rw [serveAll]
      refine (ih (c.serve net r w).2).trans ?_
      rw [serve_process]
      rfl
    | outside change process => exact ih { w with net := change w.net, process }

/-- A history may be cut anywhere, which is how a request is put behind an arbitrary past. -/
theorem serveAll_append (net : Fabric σ) (c : NetworkConnector)
    (history later : List (Occurrence σ)) (w : World σ) :
    c.serveAll net (history ++ later) w =
      ((c.serveAll net history w).1 ++ (c.serveAll net later (c.serveAll net history w).2).1,
        (c.serveAll net later (c.serveAll net history w).2).2) := by
  induction history generalizing w with
  | nil => rfl
  | cons first rest ih =>
    cases first with
    | request r =>
      rw [List.cons_append, serveAll, serveAll]
      dsimp only
      rw [ih]
      rfl
    | outside change process => exact ih { w with net := change w.net, process }

/-- After any history, the environment that counts is the one that the process has by then. -/
theorem serveAll_reading (net : Fabric σ) (config : Config) (history : List (Occurrence σ))
    (r : Request) (w : World σ) :
    let before := serveAll net ⟨config, none⟩ history w
    let last := serve net
      ⟨config, some (.ofProcess (Occurrence.latest w.process history))⟩ r before.2
    serveAll net ⟨config, none⟩ (history ++ [.request r]) w = (before.1 ++ [last.1], last.2) := by
  intro before last
  have by_then : before.2.process = Occurrence.latest w.process history :=
    serveAll_process net ⟨config, none⟩ history w
  have read : serve net ⟨config, none⟩ r before.2 = last := by
    rw [serve_reading, by_then]
  rw [serveAll_append, serveAll, read]
  rfl

/-- Two histories that differ in the environments of their processes come to the same. -/
theorem serveAll_fixed (net : Fabric σ) (config : Config) (env : Environment)
    {history history' : List (Occurrence σ)}
    (same : List.Forall₂ Occurrence.SameElse history history') (w w' : World σ)
    (net_eq : w.net = w'.net) :
    ∃ answers after events,
      serveAll net ⟨config, some env⟩ history w =
        (answers, ⟨after, Occurrence.latest w.process history, events ++ w.journal⟩) ∧
      serveAll net ⟨config, some env⟩ history' w' =
        (answers, ⟨after, Occurrence.latest w'.process history', events ++ w'.journal⟩) := by
  induction same generalizing w w' with
  | nil =>
    obtain ⟨s, process, journal⟩ := w
    obtain ⟨s', process', journal'⟩ := w'
    obtain rfl : s = s' := net_eq
    exact ⟨[], s, [], rfl, rfl⟩
  | cons first others ih =>
    cases first with
    | request r =>
      obtain ⟨answer, between, events, served⟩ := serve_detached net config env r w.net
      have first := served w.process w.journal
      have first' := served w'.process w'.journal
      rw [net_eq] at first'
      obtain ⟨answers, after, later, rest, rest'⟩ :=
        ih ⟨between, w.process, events ++ w.journal⟩ ⟨between, w'.process, events ++ w'.journal⟩ rfl
      refine ⟨answer :: answers, after, later ++ events, ?_, ?_⟩
      · rw [serveAll, first]
        dsimp only
        rw [rest, List.append_assoc]
        rfl
      · rw [serveAll, first']
        dsimp only
        rw [rest', List.append_assoc]
        rfl
    | outside change process process' =>
      exact ih { w with net := change w.net, process }
        { w' with net := change w'.net, process := process' } (congrArg change net_eq)

/-- How connectors with some settings go by the environment. -/
structure Consulted (net : Fabric σ) (config : Config) : Prop where
  /-- The environment for the next connect is what the process has by then, or the fixed one. -/
  next : ∀ history (w : World σ),
    environment ⟨config, none⟩ (serveAll net ⟨config, none⟩ history w).2 =
        .ofProcess (Occurrence.latest w.process history) ∧
      ∀ env, environment ⟨config, some env⟩ (serveAll net ⟨config, some env⟩ history w).2 = env
  /-- Reading the process is being fixed to what it shows. -/
  reading : ∀ r w,
    serve net ⟨config, none⟩ r w = serve net ⟨config, some (.ofProcess w.process)⟩ r w
  /-- Each request is answered by the environment that the process has by then. -/
  anew : ∀ history r w,
    let before := serveAll net ⟨config, none⟩ history w
    let last := serve net
      ⟨config, some (.ofProcess (Occurrence.latest w.process history))⟩ r before.2
    serveAll net ⟨config, none⟩ (history ++ [.request r]) w = (before.1 ++ [last.1], last.2)
  /-- A fixed environment leaves the process without a say: answers, network and events are
  the same, however often and to whatever its environment changes. -/
  fixed : ∀ env history history' (w w' : World σ),
    List.Forall₂ Occurrence.SameElse history history' → w.net = w'.net →
    ∃ answers after events,
      serveAll net ⟨config, some env⟩ history w =
        (answers, ⟨after, Occurrence.latest w.process history, events ++ w.journal⟩) ∧
      serveAll net ⟨config, some env⟩ history' w' =
        (answers, ⟨after, Occurrence.latest w'.process history', events ++ w'.journal⟩)

/-- Without an environment of its own a connector reads at each request; with one it never
does. -/
theorem consulted (net : Fabric σ) (config : Config) : Consulted net config where
  next history w :=
    ⟨congrArg ofProcess (serveAll_process net ⟨config, none⟩ history w), fun _ => rfl⟩
  reading r w := serve_reading net config w r
  anew := serveAll_reading net config
  fixed env _ _ w w' same := serveAll_fixed net config env same w w'

/-- What a process shows of its environment are the entries that are texts, and a connector
reads them anew for each request or not at all. -/
theorem process_read_anew_or_never (p : ProcessEnvironment) (net : Fabric σ) (config : Config) :
    p.ReadAsTexts ∧ Consulted net config :=
  ⟨p.read_as_texts, consulted net config⟩

/-- A list of FPGAs that is not UTF-8 is no list, so the simulator is next. -/
example :
    let p := (({} : ProcessEnvironment).set Variable.simPort "7").setBytes Variable.fpgaIps
      ⟨#[0x61, 0xFF]⟩
    (Environment.ofProcess p).select = .ok (.simulation ⟨"127.0.0.1", 7⟩) := by
  decide +kernel

end NetworkConnector
end Tether
