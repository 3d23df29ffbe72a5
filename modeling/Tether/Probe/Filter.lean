import Tether.Journal
import Tether.Probe.Directive

/-!
# Which log messages are shown

A directive is about messages themselves unless it names a span or tests a value, and
of all those about a message the most specific one decides whether it is shown. A
directive that names a span or a field is about spans, too, and shows every message
within such a span that its threshold admits. Spans are of the severity of debugging
messages, and are only seen if some directive admits that or tests a value.
-/
namespace Tether.Probe

def ValueTest.accepts (value : String) : ValueTest → Bool
  | scalar => false
  | like _ p => p.endsText value

namespace Directive

def isAboutMessages (d : Directive) : Bool :=
  d.span.isNone && d.field.all (·.value.isNone)

/-- Whether the directive is about all that happens within a span. -/
def isAboutSpans (d : Directive) : Bool := d.span.isSome || d.field.isSome

/-- Whether the directive is about a part of the program: the path of the part begins
as the directive says. -/
def concernsPart (d : Directive) (p : Part) : Bool := d.part.all (·.isPrefixOf p.path)

def concerns (d : Directive) (n : Notice) : Bool :=
  d.concernsPart n.part && d.field.all fun f => n.fields.contains f.name

/-- Whether the directive is about a span, whose fields pass its test. -/
def matchesSpan (d : Directive) (s : Span) : Bool :=
  d.concernsPart s.part && d.span.all (· == s.name) &&
    d.field.all fun f =>
      s.details.any fun (name, value) => name == f.name && f.value.all (·.accepts value)

/-- How specific a directive is: by the length of the part, then by having a field,
then by the name of the field. -/
def specificity (d : Directive) : Nat × Nat × String :=
  ((d.part.map fun p => p.utf8ByteSize + 1).getD 0, d.field.toList.length,
    (d.field.map (·.name)).getD "")

def isAsSpecificAs (d e : Directive) : Bool :=
  let (a, b, c) := d.specificity
  let (a', b', c') := e.specificity
  a' < a || a' == a && (b' < b || b' == b && decide (c' ≤ c))

/-- The most specific directive of a list, the last of equals. -/
def mostSpecific? : List Directive → Option Directive :=
  List.foldl (fun best d => if best.all d.isAsSpecificAs then some d else best) none

/-- Whether two directives differ in nothing but the threshold. -/
def sameTarget (d e : Directive) : Bool :=
  d.part == e.part && d.span == e.span && d.field == e.field

/-- The list without those directives that a later one replaces. -/
def inForce : List Directive → List Directive
  | [] => []
  | d :: rest => if rest.any d.sameTarget then inForce rest else d :: inForce rest

def seeSpans (ds : List Directive) : Bool :=
  ds.any fun d => d.threshold.admits .debug || d.field.any (·.value.isSome)

/-- Whether a message is shown for what it is. -/
def showByItself (ds : List Directive) (n : Notice) : Bool :=
  (mostSpecific? (ds.filter fun d => d.isAboutMessages && d.concerns n)).any
    (·.threshold.admits n.severity)

/-- Whether a message is shown for being written within a span. -/
def showWithin (ds : List Directive) (spans : List Span) (n : Notice) : Bool :=
  seeSpans ds && spans.any fun s =>
    (inForce (ds.filter isAboutSpans)).any
      fun d => d.matchesSpan s && d.threshold.admits n.severity

def shows (ds : List Directive) (n : Notice) (spans : List Span) : Bool :=
  showByItself ds n || showWithin ds spans n

end Directive
end Tether.Probe
