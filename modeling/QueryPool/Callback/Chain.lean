import QueryPool.Board

namespace QueryPool.Callback

/-- What a continuation was called with. `left` is the number of links after the one called, for
links that can see it. -/
inductive Event where
  | rows (label : String) (result : Option Cursor) (left : Option Nat)
  | outcome (label : String) (ok : Bool)
  | batch (label : String) (b : Batch)

/-- A link only looks at its result, or also begins queries, whose slots it names in order. -/
inductive Continuation where
  | plain (label : String)
  | chaining (label : String) (next : Option Cursor → List Nat)

namespace Continuation

def begun (c : Continuation) (result : Option Cursor) : List Nat :=
  match c with
  | plain _ => []
  | chaining _ next => next result

def event (c : Continuation) (result : Option Cursor) (left : Nat) : Event :=
  match c with
  | plain label => .rows label result none
  | chaining label _ => .rows label result (some left)

end Continuation

/-- What a poll did: whether the callback is finished, what is left of it, the slots after it, and
what was called. -/
structure Polled (α : Type) where
  done : Bool
  left : α
  board : Board
  events : List Event

/-- `awaited` is the slot of the query whose result the next link gets. -/
structure Chain where
  awaited : Option Nat
  links : List Continuation

namespace Chain

def finished : Chain := ⟨none, []⟩

def pollFrom : Option Nat → List Continuation → Board → Polled Chain
  | none, _, b => ⟨true, finished, b, []⟩
  | some i, links, b =>
    match b.status .rows i, links with
    | .timeout, links => ⟨false, ⟨some i, links⟩, b, []⟩
    | .broken, _ => ⟨true, finished, b, []⟩
    | .ready, [] => ⟨true, finished, b, []⟩
    | .ready, link :: links =>
      let (a, b) := b.take .rows i
      let result : Option Cursor := a.join
      let event := link.event result links.length
      if links.isEmpty then ⟨true, finished, b, [event]⟩
      else
        let p := pollFrom (link.begun result).getLast? links b
        { p with events := event :: p.events }

/-- Calls links as long as results are there. -/
def poll (c : Chain) (b : Board) : Polled Chain := pollFrom c.awaited c.links b

/-- Waits for another query instead. -/
def await (c : Chain) (i : Nat) : Chain := { c with awaited := some i }

end Chain
end QueryPool.Callback
