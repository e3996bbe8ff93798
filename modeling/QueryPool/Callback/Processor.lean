import QueryPool.Callback.Chain

namespace QueryPool

open Callback (Chain Event Polled)

/-- The callback of a commit or a batch is called at most once: its label is gone afterwards. -/
inductive Callback where
  | query (c : Chain)
  | commit (slot : Nat) (label : Option String)
  | batch (slot : Nat) (label : Option String)

namespace Callback

/-- A commit that never ran has failed, and so has one whose outcome was taken elsewhere. -/
def pollCommit (slot : Nat) (label : Option String) (b : Board) : Polled Callback :=
  let settled (ok : Option Bool) (b : Board) : Polled Callback :=
    ⟨true, commit slot none, b, label.toList.map fun l => .outcome l (ok.getD false)⟩
  match b.status .flag slot with
  | .timeout => ⟨false, commit slot label, b, []⟩
  | .broken => settled none b
  | .ready => settled (b.take .flag slot).1 (b.take .flag slot).2

/-- A batch that never ran is not called for. -/
def pollBatch (slot : Nat) (label : Option String) (b : Board) : Polled Callback :=
  match b.status .batch slot with
  | .timeout => ⟨false, batch slot label, b, []⟩
  | .broken => ⟨true, batch slot none, b, []⟩
  | .ready =>
    let a : Option Batch := (b.take .batch slot).1
    let events := a.toList.flatMap fun a => label.toList.map fun l => Event.batch l a
    ⟨true, batch slot none, (b.take .batch slot).2, events⟩

def poll (c : Callback) (b : Board) : Polled Callback :=
  match c with
  | query c =>
    let p := c.poll b
    ⟨p.done, query p.left, p.board, p.events⟩
  | commit slot label => pollCommit slot label b
  | batch slot label => pollBatch slot label b

/-- The links of a chain that have not been called. -/
def linksLeft? : Callback → Option Nat
  | query c => some c.links.length
  | _ => none

def await (c : Callback) (i : Nat) : Callback :=
  match c with
  | query c => query (c.await i)
  | c => c

end Callback

/-- What a pass did: the callbacks it kept, how many it finished, the slots after it and what was
called. -/
structure Pass where
  kept : List Callback
  finished : Nat
  board : Board
  events : List Event

/-- Polls each callback once, in the order in which they were added. -/
def Callback.pollAll : List Callback → Board → Pass
  | [], b => ⟨[], 0, b, []⟩
  | c :: cs, b =>
    let p := c.poll b
    let r := pollAll cs p.board
    if p.done then { r with finished := r.finished + 1, events := p.events ++ r.events }
    else { r with kept := p.left :: r.kept, events := p.events ++ r.events }

end QueryPool
