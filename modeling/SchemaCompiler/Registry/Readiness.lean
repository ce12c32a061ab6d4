import SchemaCompiler.Decimal.Fixed
import SchemaCompiler.Registry.Builder

/-!
# Readiness of producers

Producers register their models one after the other and mark themselves ready. Collection waits
until every expected producer has done so, or until its timeout has elapsed, and then builds the
registry from whatever is registered.

Time is counted in turns: each late producer takes one turn, in which it registers its models and
marks itself ready. A collector without a timeout goes on as soon as the last mark is made. One with
a timeout waits through a watcher of its own, which passes readiness on two turns later, so up to
two more producers take their turns before the registry is built. Without any time at all the
watcher is given up at once, which takes the same two turns and counts as a timeout.
-/

set_option autoImplicit false

namespace SchemaCompiler

/-- The expected producers that have not marked themselves ready, and the event that is raised once
there are none left. -/
structure Readiness where
  pending : List String
  raised : Bool
  deriving DecidableEq, Inhabited, Repr

namespace Readiness

/-- Nobody has marked yet. With nobody to wait for the event is raised from the start. -/
def expecting (producers : List String) : Readiness :=
  let pending := producers.eraseDups
  ⟨pending, pending.isEmpty⟩

/-- The event is raised. -/
def isReady (s : Readiness) : Bool := s.raised

/-- The pending producers in code point order. -/
def sortedPending (s : Readiness) : List String := s.pending.mergeSort fun a b => a ≤ b

/-- Marks a producer ready. The last mark that is waited for raises the event, and one that nobody
waits for is noted. -/
def mark (s : Readiness) (producer : String) : Readiness × Log.Trail :=
  if s.pending.contains producer then
    let left := s.pending.filter (· != producer)
    (⟨left, s.raised || left.isEmpty⟩, [])
  else (s, [Builder.note .debug
    ("Producer '" ++ producer ++ "' signalled ready but was not expected")])

/-- Marks several producers. -/
def markAll (s : Readiness) : List String → Readiness × Log.Trail
  | [] => (s, [])
  | p :: rest =>
    let (s, noted) := s.mark p
    let (s, later) := s.markAll rest
    (s, noted ++ later)

/-- A timeout leaves some time. -/
def leavesTime (timeout : Binary64) : Bool :=
  !timeout.isNegative && (timeout.exponentBits != 0 || timeout.fractionBits != 0)

/-- The outcome of a wait when nothing else happens: readiness, unless there is no time at all. -/
def wait (s : Readiness) (timeout : Option Binary64) : Bool :=
  s.isReady && timeout.all leavesTime

end Readiness

/-- The turn of a late producer: the models it registers before it marks itself ready. -/
structure LateProducer where
  producer : String
  models : List Model
  deriving Inhabited, Repr

/-- A builder that producers register into, and the signal they complete. -/
structure Collection where
  builder : Builder
  signal : Readiness
  deriving Inhabited, Repr

namespace Collection

/-- The state after some turns, with the trail and the error that stopped the producers. -/
structure Progress where
  state : Collection
  trail : Log.Trail
  error : Option RegistryError
  deriving Inhabited, Repr

/-- One turn of a producer. A registration that fails keeps it from marking itself ready. -/
def turn (c : Collection) (late : LateProducer) : Progress :=
  let registered := c.builder.registerMany late.models false
  match registered.error with
  | some e => ⟨⟨registered.builder, c.signal⟩, registered.trail, some e⟩
  | none =>
    let (signal, noted) := c.signal.mark late.producer
    ⟨⟨registered.builder, signal⟩, registered.trail ++ noted, none⟩

/-- Turns until `enough` of them were taken, or none is left, or one fails. The producers whose
turn has not come are returned as well. -/
def turns (enough : Collection → Nat → Bool) (c : Collection) (taken : Nat) :
    List LateProducer → Progress × List LateProducer
  | [] => (⟨c, [], none⟩, [])
  | late :: rest =>
    if enough c taken then (⟨c, [], none⟩, late :: rest)
    else
      let now := c.turn late
      match now.error with
      | some e => (⟨now.state, now.trail, some e⟩, [])
      | none =>
        let (later, left) := turns enough now.state (taken + 1) rest
        ({ later with trail := now.trail ++ later.trail }, left)

/-- The turns that the watcher of a collector with a timeout takes to pass anything on. -/
def watcherTurns : Nat := 2

/-- The turns that are taken before a collector goes on: those until readiness unless there is no
time at all, and those of its watcher if it has one. -/
def turnsBefore (c : Collection) (late : List LateProducer) (timeout : Option Binary64) :
    Progress × List LateProducer :=
  let (ready, left) :=
    if timeout.all Readiness.leavesTime then turns (fun c _ => c.signal.isReady) c 0 late
    else (⟨c, [], none⟩, late)
  let (watched, left) :=
    turns (fun _ taken => timeout.isNone || watcherTurns ≤ taken) ready.state 0 left
  ({ watched with trail := ready.trail ++ watched.trail, error := ready.error.or watched.error },
    left)

/-- What collection leaves. -/
structure Collected where
  state : Collection
  registry : Registry
  trail : Log.Trail
  error : Option RegistryError
  deriving Inhabited, Repr

/-- The entry about a wait that ended by its timeout. -/
def timeoutEntry (c : Collection) (timeout : Binary64) : Log.Entry :=
  Builder.note .warning
    ("Timed out after " ++ timeout.fixedText 1 ++ "s waiting for model producers: " ++
      String.intercalate ", " c.signal.sortedPending ++ "; continuing with " ++
      toString c.builder.models.length ++ " registered model(s)")

/-- Waits for the producers, for ever if there is no timeout, and builds the registry. The late ones
that are left take their turns afterwards. -/
def collect (c : Collection) (late : List LateProducer) (timeout : Option Binary64) : Collected :=
  let (before, left) := c.turnsBefore late timeout
  let state := before.state
  let warned :=
    if state.signal.wait timeout then [] else (timeout.map state.timeoutEntry).toList
  let (builder, registry, built) := state.builder.build
  let (after, _) := turns (fun _ _ => false) ⟨builder, state.signal⟩ 0 left
  { state := after.state, registry
    trail := before.trail ++ warned ++ [built] ++ after.trail
    error := before.error.or after.error }

end Collection

end SchemaCompiler
