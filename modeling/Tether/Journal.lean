import Tether.Error
import Tether.Kind
import Tether.LogLevel
import Tether.Selection
import Tether.Span

/-!
# The journal

Operations leave events behind: increments of counters, log messages, waits, and
the beginnings and ends of spans. A journal holds them with the newest first. What
counters show, and within which spans a message was written, is derived from the
journal and never stored beside it.
-/
namespace Tether

/-- What is counted. -/
inductive Metric where
  | attempts (kind : Kind)
  | opened (kind : Kind)
  | closed (kind : Kind)
  | errors (kind : Kind) (reason : Category)
  | connectDuration (kind : Kind)
  | entered (label : Strategy.Label)
  | exited (label : Strategy.Label)
  deriving DecidableEq, Repr

def Metric.text : Metric → String
  | attempts k => "hxcomm_connect_attempts_total" ++ labelled [("kind", k.label)]
  | opened k => "hxcomm_connections_opened_total" ++ labelled [("kind", k.label)]
  | closed k => "hxcomm_connections_closed_total" ++ labelled [("kind", k.label)]
  | errors k r =>
    "hxcomm_connection_errors_total" ++ labelled [("kind", k.label), ("reason", r.text)]
  | connectDuration k => "hxcomm_connect_duration_ms" ++ labelled [("kind", k.label)]
  | entered s => "hxcomm_contexts_entered_total" ++ labelled [("strategy", s.text)]
  | exited s => "hxcomm_contexts_exited_total" ++ labelled [("strategy", s.text)]
where
  labelled (labels : List (String × String)) : String :=
    "\x7b" ++ String.intercalate "," (labels.map fun l => l.1 ++ "=" ++ l.2) ++ "\x7d"

/-- What is reported in words. -/
inductive Notice where
  | logLevelIgnored (name value : String)
  | selected (selection : Selection)
  | connectFailed (kind : Kind) (endpoint : Endpoint) (error : Error)
  | established (kind : Kind) (endpoint : Endpoint)
  | retrying (attempt attempts : Nat) (endpoint : Endpoint) (error : Error)
  | transportFailed (kind : Kind) (endpoint : Endpoint) (error : Error)
  | closed (kind : Kind) (endpoint : Endpoint)
  | released (kind : Kind) (endpoint : Endpoint)
  | entered (strategy : Strategy)
  | exited (strategy : Strategy)
  | probing (strategy : Strategy)
  deriving DecidableEq, Repr

namespace Notice

def severity : Notice → Severity
  | logLevelIgnored _ _ => .warn
  | selected _ => .debug
  | connectFailed _ _ _ => .debug
  | established _ _ => .info
  | retrying _ _ _ _ => .warn
  | transportFailed _ _ _ => .warn
  | closed _ _ => .debug
  | released _ _ => .debug
  | entered _ => .debug
  | exited _ => .debug
  | probing _ => .info

def part : Notice → Part
  | logLevelIgnored _ _ => .environment
  | selected _ => .network
  | connectFailed _ _ _ => .link
  | established _ _ => .link
  | retrying _ _ _ _ => .daemon
  | transportFailed _ _ _ => .link
  | closed _ _ => .link
  | released _ _ => .link
  | entered _ => .context
  | exited _ => .context
  | probing _ => .probe

def text : Notice → String
  | logLevelIgnored _ _ =>
    "log level has to be an integer or one of \x7btrace,debug,info,warning,error,fatal\x7d"
  | selected _ => "selected backend from environment"
  | connectFailed _ _ _ => "connect failed"
  | established _ _ => "connection established"
  | retrying _ _ _ _ => "connection to quiggeldy failed, retrying"
  | transportFailed _ _ _ => "transport failed, connection closed"
  | closed _ _ => "connection closed"
  | released _ _ => "connection released"
  | entered _ => "entered connection context"
  | exited _ => "exited connection context"
  | probing _ => "probing"

def details : Notice → List (String × String)
  | logLevelIgnored n v => [("var", Text.quoted n), ("value", Text.quoted v)]
  | selected s => [("selection", s.shown)]
  | connectFailed k e f => place k e ++ [("error", f.text)]
  | established k e => place k e
  | retrying n m e f =>
    [("attempt", toString n), ("attempts", toString m), ("endpoint", e.text), ("error", f.text)]
  | transportFailed k e f => place k e ++ [("error", f.text)]
  | closed k e => place k e
  | released k e => place k e
  | entered s => [("strategy", s.text)]
  | exited s => [("strategy", s.text)]
  | probing s => [("strategy", s.text)]
where
  place (k : Kind) (e : Endpoint) : List (String × String) :=
    [("kind", Text.quoted k.label), ("endpoint", e.text)]

def fields (n : Notice) : List String := "message" :: n.details.map (·.1)

def line (n : Notice) : String :=
  String.intercalate " " (n.severity.mark :: n.text :: n.details.map fun d => d.1 ++ "=" ++ d.2)

end Notice

inductive Event where
  | count (metric : Metric)
  | notice (notice : Notice)
  | wait (length : Duration)
  | began (span : Span)
  | ended
  deriving DecidableEq, Repr

namespace Event

def metric? : Event → Option Metric
  | count m => some m
  | _ => none

def notice? : Event → Option Notice
  | notice n => some n
  | _ => none

/-- The longest wait, of thirty years with 365 days each, in milliseconds. -/
def longestWait : Nat := 946080000000

/-- Milliseconds spent by the event. Clocks tick in milliseconds, and a wait ends
at a tick: the first one at which it is over, or that of the longest wait. -/
def ticks : Event → Nat
  | wait d => min d.ticks longestWait
  | _ => 0

end Event

/-- Events, newest first. -/
abbrev Journal := List Event

namespace Journal

def total (j : Journal) (m : Metric) : Nat := j.count (.count m)

/-- The messages in the order in which they were written. -/
def notices (j : Journal) : List Notice := j.reverse.filterMap Event.notice?

/-- The spans that have begun and not ended, the latest first. -/
def spans : Journal → List Span
  | [] => []
  | .began s :: earlier => s :: spans earlier
  | .ended :: earlier => (spans earlier).tail
  | _ :: earlier => spans earlier

/-- Messages in the order in which they were written, each with the spans that it
was written within. -/
def messages : Journal → List (Notice × List Span)
  | [] => []
  | .notice n :: earlier => messages earlier ++ [(n, spans earlier)]
  | _ :: earlier => messages earlier

/-- The names of counted metrics with their increments, ordered by name. -/
def tally (j : Journal) : List (String × Nat) :=
  let metrics := (j.filterMap Event.metric?).eraseDups
  (metrics.map fun m => (m.text, j.total m)).mergeSort (fun a b => decide (a.1 ≤ b.1))

def waited (j : Journal) : Nat := j.foldl (fun n e => n + e.ticks) 0

def since (earlier j : Journal) : Journal := j.take (j.length - earlier.length)

@[simp] theorem total_nil (m : Metric) : total [] m = 0 := rfl

@[simp] theorem total_cons (e : Event) (j : Journal) (m : Metric) :
    total (e :: j) m = total j m + if e = .count m then 1 else 0 := by
  simp [total, List.count_cons]

end Journal
end Tether
