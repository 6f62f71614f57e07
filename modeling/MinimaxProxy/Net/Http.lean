import MinimaxProxy.Net.Address
import MinimaxProxy.Sim.Runs

/-!
# HTTP clients

A client as `net/http` runs it: a request is given to the transport, which may ask for any
number of connections, and the answer may redirect to another URL. What the program supplies
are the hooks; the environment chooses the redirects and what the network is like each time.
-/

namespace Net

/-- `url.URL`, with what `Hostname` and `Port` make of its host. -/
structure URL where
  scheme : String
  opaquePart : String := ""
  user : Bool := false
  hostname : String
  port : String := ""
  path : String := ""
  rawPath : String := ""
  forceQuery : Bool := false
  rawQuery : String := ""
  fragment : String := ""
  rawFragment : String := ""
  deriving DecidableEq

/-- What the program decides, with the network in a state of `W`. -/
structure Hooks (W : Type*) where
  /-- The transport accepts the request. -/
  send : W → URL → Bool
  /-- The redirect is followed after so many requests. -/
  follow : W → Nat → URL → Bool
  /-- The addresses dialed for a connection. -/
  dial : W → URL → List Addr

/-- A call of the client: the request at hand, the number of earlier ones, whether the transport
has accepted it, and the addresses dialed so far. -/
structure Session where
  current : URL
  via : Nat := 0
  accepted : Bool := false
  dialed : List Addr := []

inductive Exchange (W : Type*)
  | send (net : W)
  | dial (net : W)
  | follow (net : W) (target : URL)

variable {W : Type*} (hooks : Hooks W)

/-- The call after an exchange, if it can happen. -/
def Session.next (s : Session) : Exchange W → Option Session
  | .send net => some { s with accepted := hooks.send net s.current }
  | .dial net => if s.accepted then some { s with dialed := s.dialed ++ hooks.dial net s.current } else none
  | .follow net target =>
    if s.accepted && hooks.follow net (s.via + 1) target then
      some { s with current := target, via := s.via + 1, accepted := false }
    else none

def Session.Step (s : Session) (e : Exchange W) (t : Session) : Prop := s.next hooks e = some t

variable {hooks}

/-- What every connection keeps to holds of all addresses dialed in the call. -/
theorem Session.dialed_of_run {ok : Session → Exchange W → Prop} {P : Addr → Prop}
    (each : ∀ s net, ok s (.dial net) → ∀ a ∈ hooks.dial net s.current, P a) {s t : Session} (start : ∀ a ∈ s.dialed, P a)
    (run : Sim.Run (Session.Step hooks) ok s t) : ∀ a ∈ t.dialed, P a := by
  refine Sim.Run.invariant (fun t : Session => ∀ a ∈ t.dialed, P a) start (fun t e u old met step => ?_) run
  cases e with
  | send net =>
    cases step
    exact old
  | dial net =>
    rw [Session.Step, Session.next, Option.ite_none_right_eq_some, Option.some.injEq] at step
    obtain ⟨-, rfl⟩ := step
    intro a mem
    exact (List.mem_append.mp mem).elim (old a) (each t net met a)
  | follow net target =>
    rw [Session.Step, Session.next, Option.ite_none_right_eq_some, Option.some.injEq] at step
    obtain ⟨-, rfl⟩ := step
    exact old

/-- The addresses are dialed one after the other until one connects. -/
def dialEach (connects : Addr → Bool) : List Addr → List Addr
  | [] => []
  | a :: rest => if connects a then [a] else a :: dialEach connects rest

theorem dialEach_eq (connects : Addr → Bool) (addresses : List Addr) :
    dialEach connects addresses = addresses.take (addresses.findIdx connects + 1) := by
  induction addresses with
  | nil => rfl
  | cons a rest ih =>
    rw [dialEach, List.findIdx_cons, ih]
    cases connects a <;> rfl

end Net
