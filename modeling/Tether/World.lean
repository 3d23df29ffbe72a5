import Tether.Environment.Process
import Tether.Journal

/-!
# What operations act on

The world outside a program: whatever lies behind its sockets, the environment of
its process, and the journal. Operations take a world and return it changed.
-/
namespace Tether

structure World (σ : Type) where
  net : σ
  process : ProcessEnvironment := {}
  journal : Journal := []

namespace World

variable {σ : Type}

def emit (w : World σ) (e : Event) : World σ := { w with journal := e :: w.journal }

def count (w : World σ) (m : Metric) : World σ := w.emit (.count m)

def notify (w : World σ) (n : Notice) : World σ := w.emit (.notice n)

def pause (w : World σ) (d : Duration) : World σ := w.emit (.wait d)

/-- Does work within a span, which ends however the work turns out. -/
def within {α : Type} (w : World σ) (s : Span) (work : World σ → α × World σ) : α × World σ :=
  let (result, w) := work (w.emit (.began s))
  (result, w.emit .ended)

@[simp] theorem emit_journal (w : World σ) (e : Event) :
    (w.emit e).journal = e :: w.journal := rfl
@[simp] theorem count_net (w : World σ) (m : Metric) : (w.count m).net = w.net := rfl
@[simp] theorem notify_net (w : World σ) (n : Notice) : (w.notify n).net = w.net := rfl

theorem within_eq {α : Type} (w : World σ) (s : Span) (work : World σ → α × World σ) :
    w.within s work =
      ((work (w.emit (.began s))).1, (work (w.emit (.began s))).2.emit .ended) := rfl

@[simp] theorem total_count (w : World σ) (counted m : Metric) :
    (w.count counted).journal.total m = w.journal.total m + if counted = m then 1 else 0 := by
  simp [count, Journal.total_cons]

@[simp] theorem total_notify (w : World σ) (n : Notice) (m : Metric) :
    (w.notify n).journal.total m = w.journal.total m := by
  simp [notify, Journal.total_cons]

@[simp] theorem total_pause (w : World σ) (d : Duration) (m : Metric) :
    (w.pause d).journal.total m = w.journal.total m := by
  simp [pause, Journal.total_cons]

end World
end Tether
