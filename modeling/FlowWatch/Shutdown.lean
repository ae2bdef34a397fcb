import FlowWatch.Log.Event

/-!
# Shutdown requests and the handles that share them

Handles that were cloned from one another share one state; a detached handle
starts a state of its own. A request through any handle of a state is seen
through all of them, and is never taken back. A signal is counted and requests
shutdown, so a loop that looks for requests before every turn counts one at most.
-/

namespace FlowWatch.Shutdown

open Log

/-- What handles of one family share. -/
structure State where
  /-- Whether shutdown was requested. -/
  requested : Bool
  /-- How many signals have arrived. -/
  signals : Nat
  deriving DecidableEq, Repr

/-- Nothing has been requested yet. -/
def State.quiet : State := ⟨false, 0⟩

/-- The state after a request. -/
def State.request (s : State) : State := { s with requested := true }

/-- The state after a signal, which is counted and requests shutdown. -/
def State.receive (s : State) : State := ⟨true, s.signals + 1⟩

/-- All handles and the states they share. A handle is the number of its state. -/
structure Registry where
  /-- The number of the state of each handle, in the order of their making. -/
  handles : List Nat
  /-- The states. -/
  states : List State
  deriving DecidableEq, Repr

/-- An operation on the handles, which are named by their numbers. -/
inductive Operation
  /-- Makes a handle with a state of its own. -/
  | detach
  /-- Makes a handle with the state of another one. -/
  | clone (handle : Nat)
  /-- Requests shutdown through a handle. -/
  | request (handle : Nat)
  /-- Requests shutdown through the state of a handle. -/
  | requestState (handle : Nat)
  deriving DecidableEq, Repr

namespace Registry

/-- No handles. -/
def empty : Registry := ⟨[], []⟩

/-- One more handle with a state of its own. -/
def detach (r : Registry) : Registry :=
  ⟨r.handles ++ [r.states.length], r.states ++ [State.quiet]⟩

/-- One more handle with the state of another one; nothing for a handle that
does not exist. -/
def clone (r : Registry) (handle : Nat) : Registry :=
  match r.handles[handle]? with
  | some family => { r with handles := r.handles ++ [family] }
  | none => r

/-- The registry after a request through a handle. -/
def request (r : Registry) (handle : Nat) : Registry :=
  match r.handles[handle]? with
  | some family => { r with states := r.states.modify family State.request }
  | none => r

/-- The state that a handle sees. -/
def state? (r : Registry) (handle : Nat) : Option State :=
  (r.handles[handle]?).bind (r.states[·]?)

/-- The states that all handles see, in order. -/
def view (r : Registry) : List State := r.handles.filterMap (r.states[·]?)

/-- One detached handle. -/
def start : Registry := empty.detach

/-- Performs one operation. -/
def step (r : Registry) : Operation → Registry
  | .detach => r.detach
  | .clone handle => r.clone handle
  | .request handle => r.request handle
  | .requestState handle => r.request handle

/-- The registry after several operations. -/
def run (r : Registry) (operations : List Operation) : Registry := operations.foldl step r

/-- The event of an operation: a request through a handle is logged, one through
its state is not. -/
def events : Operation → List Event
  | .request _ => [.shutdownRequested]
  | _ => []

end Registry

end FlowWatch.Shutdown
