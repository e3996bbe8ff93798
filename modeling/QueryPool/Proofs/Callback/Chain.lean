import Mathlib.Data.List.Induction
import QueryPool.Callback.Chain

namespace QueryPool.Callback

/-- What can happen between two looks at a chain: a query gets its result or its producer goes away,
a consumer takes a result, or the chain is polled. -/
inductive Turn where
  | set (i : Nat) (a : Option Cursor)
  | abandon (i : Nat)
  | take (i : Nat)
  | poll

/-- What a turn does to the slots, apart from what a chain does that is polled. -/
def Turn.act (b : Board) : Turn → Board
  | set i a => (b.set .rows i a).2
  | abandon i => b.abandon .rows i
  | take i => (b.take .rows i).2
  | poll => b

/-- The slots after some turns, had nobody polled. -/
def fates (b : Board) (ts : List Turn) : Board := ts.foldl Turn.act b

/-- A chain that is polled now and then, what it called so far, and whether a poll has found it
finished. -/
structure Watch where
  chain : Chain
  board : Board
  called : List Event := []
  done : Bool := false

namespace Watch

def turn (w : Watch) : Turn → Watch
  | .poll =>
    let p := w.chain.poll w.board
    ⟨p.left, p.board, w.called ++ p.events, w.done || p.done⟩
  | t => { w with board := t.act w.board }

def run (w : Watch) (ts : List Turn) : Watch := ts.foldl turn w

end Watch

/-- A link that was called, the slot that its result came from, and how many links were left. -/
structure Call where
  link : Continuation
  slot : Nat
  result : Option Cursor
  left : Nat

def Call.event (x : Call) : Event := x.link.event x.result x.left

namespace Chain

/-- With these slots a chain makes the calls `xs`, one link after the other, and is then the other
chain. After the first call it waits for the last slot that the link before named. -/
inductive Calls (b : Board) : Chain → List Call → Chain → Prop where
  | none (c : Chain) : Calls b c [] c
  | more {i : Nat} {a : Option Cursor} {link : Continuation} {links : List Continuation}
      {xs : List Call} {c' : Chain} (ready : b.slot? .rows i = some (.ready a))
      (rest : Calls b ⟨(link.begun a).getLast?, links⟩ xs c') :
      Calls b ⟨some i, link :: links⟩ (⟨link, i, a, links.length⟩ :: xs) c'

/-- Why a chain goes no further. -/
inductive Stops (b : Board) (c : Chain) : Prop where
  | noQuery (h : c.awaited = none)
  | broken {i : Nat} (h : c.awaited = some i) (gone : b.status .rows i = .broken)
  | noLink (h : c.links = [])

/-- The slots that a chain comes to wait for. -/
def Awaits (b : Board) (c : Chain) (i : Nat) : Prop :=
  ∃ xs c', c.Calls b xs c' ∧ c'.awaited = some i

/-- The slots that a chain comes to wait for differ, and nobody else takes from them. -/
structure Alone (c : Chain) (b : Board) (ts : List Turn) : Prop where
  distinct : ∀ xs c', c.Calls (fates b ts) xs c' → (xs.map Call.slot ++ c'.awaited.toList).Nodup
  untaken : ∀ i, c.Awaits (fates b ts) i → b.slot? .rows i ≠ some .taken ∧ .take i ∉ ts

/-- The board `k` is `b` with the results of these calls taken, and no others. -/
def Consumed (b : Board) (xs : List Call) (k : Board) : Prop :=
  ∀ i, k.slot? .rows i = if i ∈ xs.map Call.slot then some .taken else b.slot? .rows i

/-- Where a chain stands that was watched: it made the calls `xs`, and waits as `c'` unless a poll
found it finished. -/
structure Stands (c : Chain) (b : Board) (w : Watch) (xs : List Call) (c' : Chain) : Prop where
  calls : c.Calls b xs c'
  called : w.called = xs.map Call.event
  consumed : Consumed b xs w.board
  waits : w.done = false → w.chain = c'
  stops : w.done = true → w.chain = finished ∧ c'.Stops b

end Chain

/-- What a turn does to slot `i`. -/
def Turn.effect (i : Nat) : Turn → Slot Kind.rows.Payload → Slot Kind.rows.Payload
  | set j a, s => if i = j then (s.set a).2 else s
  | abandon j, s => if i = j then s.abandon else s
  | take j, s => if i = j then s.take.2 else s
  | poll, s => s

variable {b b' : Board} {i : Nat} {t : Turn} {ts : List Turn} {c c' : Chain} {xs : List Call}
  {w : Watch}

theorem slot?_act (b : Board) (t : Turn) (i : Nat) :
    (t.act b).slot? .rows i = (b.slot? .rows i).map (t.effect i) := by
  cases t with
  | set j a => exact b.slot?_set .rows j i a
  | abandon j => exact b.slot?_abandon .rows j i
  | take j =>
    rw [Turn.act, Board.slot?_take]
    simp only [true_and]
    rfl
  | poll => cases hs : b.slot? .rows i <;> simp [Turn.act, Turn.effect, hs]

theorem effect_taken (t : Turn) (i : Nat) : t.effect i .taken = .taken := by
  cases t with
  | set j a | abandon j | take j =>
    simp only [Turn.effect]
    split <;> rfl
  | poll => rfl

/-- What is settled stays as it is until somebody takes it. -/
theorem slot?_act_of_settled (ht : t ≠ .take i) :
    (t.act b).slot? .rows i = b.slot? .rows i ∨ b.slot? .rows i = some .pending := by
  rw [slot?_act]
  cases hs : b.slot? .rows i with
  | none => exact .inl rfl
  | some s =>
    cases s with
    | pending => exact .inr rfl
    | ready | taken | broken =>
      refine .inl (congrArg some ?_)
      cases t with
      | set j a | abandon j =>
        simp only [Turn.effect]
        split <;> rfl
      | take j =>
        have hne : i ≠ j := by
          intro hij
          exact ht (by rw [hij])
        exact if_neg hne
      | poll => rfl

theorem fates_append (b : Board) (ts : List Turn) (t : Turn) :
    fates b (ts ++ [t]) = t.act (fates b ts) := by
  simp [fates]

namespace Chain

theorem Calls.links (h : c.Calls b xs c') : c.links = xs.map Call.link ++ c'.links := by
  induction h with
  | none => rfl
  | more _ _ ih => exact congrArg _ ih

theorem Calls.snoc {a : Option Cursor} {link : Continuation} {links : List Continuation}
    (h : c.Calls b xs ⟨some i, link :: links⟩) (ready : b.slot? .rows i = some (.ready a)) :
    c.Calls b (xs ++ [⟨link, i, a, links.length⟩]) ⟨(link.begun a).getLast?, links⟩ := by
  generalize hk : (⟨some i, link :: links⟩ : Chain) = k at h
  induction h with
  | none =>
    subst hk
    exact .more ready (.none _)
  | more ready' _ ih => exact .more ready' (ih hk)

theorem Calls.awaits_rest {a : Option Cursor} {link : Continuation} {links : List Continuation}
    {j : Nat} (ready : b.slot? .rows i = some (.ready a))
    (h : Awaits b ⟨(link.begun a).getLast?, links⟩ j) : Awaits b ⟨some i, link :: links⟩ j := by
  obtain ⟨xs, c', hc, hj⟩ := h
  exact ⟨_, c', .more ready hc, hj⟩

theorem awaits_first (b : Board) (i : Nat) (links : List Continuation) :
    Awaits b ⟨some i, links⟩ i := ⟨[], _, .none _, rfl⟩

/-- Calls that were possible stay possible while nobody takes from the slots of the chain. -/
theorem Calls.act (h : c.Calls b xs c') (ht : ∀ i, c.Awaits (t.act b) i → t ≠ .take i) :
    c.Calls (t.act b) xs c' := by
  induction h with
  | none => exact .none _
  | @more i a link links xs c' ready _ ih =>
    have ready' : (t.act b).slot? .rows i = some (.ready a) := by
      rcases slot?_act_of_settled (b := b) (ht i (awaits_first _ i _)) with hsame | hpending
      · exact hsame.trans ready
      · rw [ready] at hpending
        cases hpending
    exact .more ready' (ih fun j hj => ht j (Calls.awaits_rest ready' hj))

theorem Alone.act_ne (h : c.Alone b (ts ++ [t])) (hi : c.Awaits (t.act (fates b ts)) i) :
    t ≠ .take i := by
  rintro rfl
  exact (h.untaken i (by rwa [fates_append])).2 (by simp)

theorem Alone.calls (h : c.Alone b (ts ++ [t])) (hc : c.Calls (fates b ts) xs c') :
    c.Calls (fates b (ts ++ [t])) xs c' := by
  rw [fates_append]
  exact hc.act fun _ hi => h.act_ne hi

/-- A ready result that nobody else took is handed over, and its slot has been taken from. -/
theorem take_of_ready {k k' : Board} {r : Option Kind.rows.Payload}
    (ready : k.status .rows i = .ready) (fresh : k.slot? .rows i ≠ some .taken)
    (took : k.take .rows i = (r, k')) : ∃ a, k.slot? .rows i = some (.ready a) ∧ r = some a ∧
      ∀ j, k'.slot? .rows j = if j = i then some .taken else k.slot? .rows j := by
  have hk' : k' = (k.take .rows i).2 := by rw [took]
  have hr : r = (k.take .rows i).1 := by rw [took]
  cases hs : k.slot? .rows i with
  | none => simp [Board.status, hs, Slot.status, Slot.settled?] at ready
  | some s =>
    cases s with
    | taken => exact absurd hs fresh
    | pending | broken => simp [Board.status, hs, Slot.status, Slot.settled?] at ready
    | ready a =>
      refine ⟨a, rfl, ?_, ?_⟩
      · rw [hr, Board.take, hs]
        rfl
      · intro j
        rw [hk', Board.slot?_take]
        by_cases hj : j = i
        · subst hj
          simp [hs, Slot.take]
        · cases k.slot? .rows j <;> simp [hj]

/-- The next call takes the result that was promised for its slot. -/
theorem Calls.next {k k' : Board} {r : Option Kind.rows.Payload} {link : Continuation}
    {links : List Continuation} (calls : c.Calls b xs ⟨some i, link :: links⟩)
    (consumed : Consumed b xs k) (same : k.slot? .rows i = b.slot? .rows i)
    (fresh : b.slot? .rows i ≠ some .taken) (ready : k.status .rows i = .ready)
    (took : k.take .rows i = (r, k')) : ∃ a, r = some a ∧
      let xs' := xs ++ [⟨link, i, a, links.length⟩]
      c.Calls b xs' ⟨(link.begun a).getLast?, links⟩ ∧ Consumed b xs' k' := by
  obtain ⟨a, hs, hr, hk'⟩ := take_of_ready ready (by rwa [same]) took
  refine ⟨a, hr, calls.snoc (by rw [← same, hs]), ?_⟩
  intro j
  rw [hk', consumed]
  by_cases hj : j = i
  · simp [hj]
  · simp [hj]

/-- A poll goes on with the calls that were made before it. -/
theorem stands_pollFrom {k : Board}
    (distinct : ∀ xs c', c.Calls b xs c' → (xs.map Call.slot ++ c'.awaited.toList).Nodup)
    (fresh : ∀ i, c.Awaits b i → b.slot? .rows i ≠ some .taken)
    (awaited : Option Nat) (links : List Continuation) (calls : c.Calls b xs ⟨awaited, links⟩)
    (consumed : Consumed b xs k) :
    let p := pollFrom awaited links k
    ∃ ys c', c.Stands b ⟨p.left, p.board, xs.map Call.event ++ p.events, p.done⟩ ys c' := by
  -- the slot that is waited for is as it was promised, since no earlier call took from it
  have untouched {i : Nat} {links : List Continuation} {k : Board} {xs : List Call}
      (calls : c.Calls b xs ⟨some i, links⟩) (consumed : Consumed b xs k) :
      k.slot? .rows i = b.slot? .rows i := by
    have hnodup := distinct xs _ calls
    simp only [Option.toList_some, List.nodup_append, List.mem_singleton] at hnodup
    have hi : i ∉ xs.map Call.slot := fun hmem => hnodup.2.2 i hmem i rfl rfl
    rw [consumed, if_neg hi]
  fun_induction pollFrom awaited links k generalizing xs with
  | case1 links k =>
    refine ⟨xs, _, calls, by simp, consumed, ?_, fun _ => ⟨rfl, .noQuery rfl⟩⟩
    intro h
    cases h
  | case2 i k links hs =>
    refine ⟨xs, _, calls, by simp, consumed, fun _ => rfl, ?_⟩
    intro h
    cases h
  | case3 i links k hs =>
    have gone : b.status .rows i = .broken := by
      rw [← hs, Board.status, Board.status, untouched calls consumed]
    refine ⟨xs, _, calls, by simp, consumed, ?_, fun _ => ⟨rfl, .broken rfl gone⟩⟩
    intro h
    cases h
  | case4 i k hs =>
    refine ⟨xs, _, calls, by simp, consumed, ?_, fun _ => ⟨rfl, .noLink rfl⟩⟩
    intro h
    cases h
  | case5 i k link links hs r k' ht result event =>
    rename_i hlinks
    obtain ⟨a, rfl, calls', consumed'⟩ := calls.next consumed (untouched calls consumed)
      (fresh i ⟨xs, _, calls, rfl⟩) hs ht
    refine ⟨_, _, calls', ?_, consumed', ?_, fun _ => ⟨rfl, .noLink (List.isEmpty_iff.1 hlinks)⟩⟩
    · rw [List.map_append]
      rfl
    · intro h
      cases h
  | case6 i k link links hs r k' ht result event hlinks p =>
    rename_i ih
    obtain ⟨a, rfl, calls', consumed'⟩ := calls.next consumed (untouched calls consumed)
      (fresh i ⟨xs, _, calls, rfl⟩) hs ht
    obtain ⟨ys, c', stands⟩ := ih calls' consumed'
    refine ⟨ys, c', ?_⟩
    rw [List.map_append, List.append_assoc] at stands
    exact stands

theorem slot?_of_timeout {k : Board} (h : k.status .rows i = .timeout) :
    k.slot? .rows i = some .pending := by
  cases hs : k.slot? .rows i with
  | none => simp [Board.status, hs, Slot.status, Slot.settled?] at h
  | some s =>
    cases s with
    | pending => rfl
    | ready | taken | broken => simp [Board.status, hs, Slot.status, Slot.settled?] at h

/-- A poll either leaves the chain waiting for a query that is still pending, or nothing of it. -/
theorem pollFrom_cases (awaited : Option Nat) (links : List Continuation) (k : Board) :
    let p := pollFrom awaited links k
    (p.done = false ∧ ∃ i, p.left.awaited = some i ∧ p.board.slot? .rows i = some .pending) ∨
      (p.done = true ∧ p.left = finished) := by
  fun_induction pollFrom awaited links k with
  | case2 i k links hs => exact .inl ⟨rfl, i, rfl, slot?_of_timeout hs⟩
  | case1 | case3 | case4 | case5 => exact .inr ⟨rfl, rfl⟩
  | case6 =>
    rename_i ih
    exact ih

theorem Stops.act (h : c.Stops b) (ht : ∀ i, c.awaited = some i → t ≠ .take i) :
    c.Stops (t.act b) := by
  cases h with
  | noQuery h => exact .noQuery h
  | noLink h => exact .noLink h
  | @broken i h gone =>
    rcases slot?_act_of_settled (b := b) (ht i h) with hsame | hpending
    · exact .broken h (by rw [Board.status, hsame]; exact gone)
    · rw [Board.status, hpending] at gone
      cases gone

theorem Consumed.act {k : Board} (h : Consumed b xs k) (t : Turn) :
    Consumed (t.act b) xs (t.act k) := by
  intro i
  rw [slot?_act, slot?_act, h]
  split
  · exact congrArg some (effect_taken t i)
  · rfl

/-- Turns other than polls change nothing about the chain. -/
theorem Stands.act (h : c.Stands b w xs c') (hw : w.turn t = { w with board := t.act w.board })
    (ht : ∀ i, c.Awaits (t.act b) i → t ≠ .take i) :
    c.Stands (t.act b) (w.turn t) xs c' := by
  have calls := h.calls.act ht
  rw [hw]
  refine ⟨calls, h.called, h.consumed.act t, h.waits, ?_⟩
  intro hdone
  obtain ⟨hchain, stops⟩ := h.stops hdone
  exact ⟨hchain, stops.act fun i hi => ht i ⟨xs, c', calls, hi⟩⟩

/-- Once a poll has found the chain finished, nothing more is called. -/
theorem turn_of_finished (hdone : w.done = true) (hchain : w.chain = finished) (t : Turn) :
    (w.turn t).done = true ∧ (w.turn t).chain = finished ∧ (w.turn t).called = w.called := by
  cases t with
  | set | abandon | take => exact ⟨hdone, hchain, rfl⟩
  | poll => simp [Watch.turn, hdone, hchain, poll, finished, pollFrom]

theorem Stands.poll (h : c.Stands b w xs c')
    (distinct : ∀ xs c', c.Calls b xs c' → (xs.map Call.slot ++ c'.awaited.toList).Nodup)
    (fresh : ∀ i, c.Awaits b i → b.slot? .rows i ≠ some .taken) :
    ∃ ys c'', c.Stands b (w.turn .poll) ys c'' := by
  cases hdone : w.done with
  | true =>
    obtain ⟨hchain, stops⟩ := h.stops hdone
    obtain ⟨hdone', hchain', hcalled⟩ := turn_of_finished hdone hchain .poll
    have hboard : (w.turn .poll).board = w.board := by
      simp [Watch.turn, hchain, Chain.poll, finished, pollFrom]
    refine ⟨xs, c', h.calls, hcalled.trans h.called, ?_, ?_, fun _ => ⟨hchain', stops⟩⟩
    · rw [hboard]
      exact h.consumed
    · intro hopen
      rw [hdone'] at hopen
      cases hopen
  | false =>
    have hchain := h.waits hdone
    obtain ⟨ys, c'', stands⟩ :=
      stands_pollFrom distinct fresh c'.awaited c'.links h.calls h.consumed
    refine ⟨ys, c'', ?_⟩
    rw [← h.called, ← hchain] at stands
    simpa only [Watch.turn, hdone, Bool.false_or, Chain.poll] using stands

end Chain

/-- A slot that is settled on both boards is settled in the same way. -/
def Agree (b b' : Board) (i : Nat) : Prop :=
  b.slot? .rows i = some .pending ∨ b'.slot? .rows i = some .pending ∨
    b.slot? .rows i = b'.slot? .rows i

theorem Agree.symm (h : Agree b b' i) : Agree b' b i := by
  rcases h with h | h | h
  · exact .inr (.inl h)
  · exact .inl h
  · exact .inr (.inr h.symm)

namespace Chain

/-- A chain does not stop where, by the other board, it has a call to make. -/
theorem not_stops_of_ready {a : Option Cursor} {link : Continuation} {links : List Continuation}
    (agree : Agree b b' i) (ready : b'.slot? .rows i = some (.ready a)) :
    ¬Stops b ⟨some i, link :: links⟩ := by
  intro stops
  cases stops with
  | noQuery h => cases h
  | noLink h => cases h
  | broken h gone =>
    cases h
    rcases agree with hs | hs | hs
    · simp [Board.status, hs, Slot.status, Slot.settled?] at gone
    · rw [ready] at hs
      cases hs
    · simp [Board.status, hs.trans ready, Slot.status, Slot.settled?] at gone

/-- The calls that a finished chain made follow from the results of its queries. -/
theorem Calls.unique {ys : List Call} {d d' : Chain} (h : c.Calls b xs d) (stops : d.Stops b)
    (h' : c.Calls b' ys d') (stops' : d'.Stops b')
    (agree : ∀ i, c.Awaits b i → c.Awaits b' i → Agree b b' i) : xs = ys := by
  induction h generalizing ys with
  | none c =>
    cases h' with
    | none => rfl
    | @more i _ _ links _ _ ready _ =>
      have hi := agree i (awaits_first b i _) (awaits_first b' i _)
      exact absurd stops (not_stops_of_ready hi ready)
  | @more i a link links xs d ready rest ih =>
    have hi := agree i (awaits_first b i _) (awaits_first b' i _)
    cases h' with
    | none => exact absurd stops' (not_stops_of_ready hi.symm ready)
    | @more _ a' _ _ _ _ ready' rest' =>
      have hsame : some (Slot.ready a) = some (.ready a') := by
        rcases hi with hs | hs | hs
        · rw [ready] at hs
          cases hs
        · rw [ready'] at hs
          cases hs
        · exact ready.symm.trans (hs.trans ready')
      cases hsame
      refine congrArg _ (ih stops rest' ?_)
      intro j hj hj'
      exact agree j (Calls.awaits_rest ready hj) (Calls.awaits_rest ready' hj')

theorem turn_finished (h : w.done = true → w.chain = finished) (t : Turn)
    (hdone : (w.turn t).done = true) : (w.turn t).chain = finished := by
  cases hw : w.done with
  | true => exact (turn_of_finished hw (h hw) t).2.1
  | false =>
    cases t with
    | set | abandon | take =>
      have : w.done = true := hdone
      rw [hw] at this
      cases this
    | poll =>
      have hp : (w.chain.poll w.board).done = true := by
        simpa [Watch.turn, hw] using hdone
      rcases pollFrom_cases w.chain.awaited w.chain.links w.board with ⟨hopen, _⟩ | ⟨_, hleft⟩
      · rw [poll, hopen] at hp
        cases hp
      · exact hleft

end Chain

/-- A chain that nobody has polled yet. -/
def Watch.start (c : Chain) (b : Board) : Watch := { chain := c, board := b }

end QueryPool.Callback
