import SchemaCompiler.Registry.Readiness

/-!
# Gathering models in any order

Producers register models and mark themselves ready while one collector waits for them, and their
steps may interleave in any way. The collector looks at the event when it begins to wait. If the
event is not raised then, the mark that raises it wakes the collector. A collector that was woken
goes on, and so does one whose timeout has elapsed; it then builds the registry from whatever is
registered. With no time at all it does not heed the event.
-/

set_option autoImplicit false

namespace SchemaCompiler

/-- How far a collector has come. -/
inductive Collector where
  /-- It has not begun. -/
  | idle
  /-- It waits, and was woken or was not. -/
  | waiting (woken : Bool)
  /-- Its wait has ended, by readiness or by its timeout. -/
  | resumed (ready : Bool)
  /-- It has built the registry. -/
  | done (ready : Bool) (snapshot : Registry)
  deriving Inhabited, Repr

/-- A collector that waits is woken. -/
def Collector.wake : Collector → Collector
  | waiting _ => waiting true
  | other => other

/-- What producers register into and signal with, the collector among them, and whether its timeout
has elapsed. -/
structure Gathering where
  collection : Collection
  collector : Collector
  elapsed : Bool
  deriving Inhabited, Repr

namespace Gathering

/-- What happens next. -/
inductive Step where
  /-- A producer registers a model. -/
  | register (producer : String) (m : Model) (skip : Bool)
  /-- A producer marks itself ready. -/
  | mark (producer : String)
  /-- The collector begins to wait. -/
  | wait
  /-- The timeout of the collector elapses. -/
  | elapse
  /-- The wait of the collector ends. -/
  | resume (ready : Bool)
  /-- The collector builds the registry. -/
  | build
  deriving Inhabited, Repr

/-- The builder that producers register into. -/
def builder (g : Gathering) : Builder := g.collection.builder

/-- The signal that producers complete. -/
def signal (g : Gathering) : Readiness := g.collection.signal

/-- Nothing has happened yet. -/
def start (b : Builder) (expected : List String) : Gathering :=
  ⟨⟨b, .expecting expected⟩, .idle, false⟩

/-- After a registration. One that is refused leaves everything as it was. -/
def registered (g : Gathering) (m : Model) (skip : Bool) : Gathering :=
  match g.builder.register m skip with
  | .ok (b, _) => { g with collection := ⟨b, g.signal⟩ }
  | .error _ => g

/-- After a mark. The one that raises the event wakes the collector. -/
def marked (g : Gathering) (producer : String) : Gathering :=
  let (signal, _) := g.signal.mark producer
  { g with
    collection := ⟨g.builder, signal⟩
    collector := if signal.raised && !g.signal.raised then g.collector.wake else g.collector }

/-- A wait may end by readiness if the collector was woken and has time at all, and by its timeout
if that has elapsed. -/
def mayResume (timeout : Option Binary64) (g : Gathering) (woken : Bool) : Bool → Bool
  | true => woken && timeout.all Readiness.leavesTime
  | false => g.elapsed

/-- After a step, if it is possible. -/
def step? (timeout : Option Binary64) (g : Gathering) : Step → Option Gathering
  | .register _ m skip => some (g.registered m skip)
  | .mark producer => some (g.marked producer)
  | .wait =>
    match g.collector with
    | .idle => some { g with collector := .waiting g.signal.raised }
    | _ => none
  | .elapse =>
    match g.collector with
    | .waiting _ => if timeout.isSome then some { g with elapsed := true } else none
    | _ => none
  | .resume ready =>
    match g.collector with
    | .waiting woken =>
      if g.mayResume timeout woken ready then some { g with collector := .resumed ready } else none
    | _ => none
  | .build =>
    match g.collector with
    | .resumed ready =>
      let (b, snapshot, _) := g.builder.build
      some { g with collection := ⟨b, g.signal⟩, collector := .done ready snapshot }
    | _ => none

/-- After some steps, if each of them is possible when it comes. -/
def run? (timeout : Option Binary64) (g : Gathering) : List Step → Option Gathering
  | [] => some g
  | step :: rest => (g.step? timeout step).bind (·.run? timeout rest)

end Gathering

end SchemaCompiler
