import Mathlib.Data.List.Induction
import QueryPool.Proofs.Callback.Consumers

namespace QueryPool

open Callback (Ask Chain Event Polled)
open Slot (Settles Shared)

namespace Processor

/-- What others do to the slots. -/
inductive Act where
  | set (k : Kind) (i : Nat) (a : k.Payload)
  | abandon (k : Kind) (i : Nat)
  | take (k : Kind) (i : Nat)

namespace Act

def on (b : Board) : Act → Board
  | set k i a => (b.set k i a).2
  | abandon k i => b.abandon k i
  | take k i => (b.take k i).2

/-- What it does as long as nobody takes a result. -/
def settle (b : Board) : Act → Board
  | take _ _ => b
  | a => a.on b

end Act

/-- Something that happens to the callbacks: somebody else acts, or callback `n` is polled. -/
inductive Tick where
  | act (a : Act)
  | poll (n : Nat)

/-- A settlement or an outside take, or a pass. Others may act while it goes on: just before
callback `n` is polled they do `during n`. -/
inductive Turn where
  | act (a : Act)
  | pass (during : Nat → List Act)

namespace Turn

def sweep (during : Nat → List Act) (ns : List Nat) : List Tick :=
  ns.flatMap fun n => (during n).map Tick.act ++ [.poll n]

/-- What happens in a pass up to the poll of callback `n`. -/
def before (during : Nat → List Act) (n : Nat) : List Tick :=
  sweep during (List.range n) ++ (during n).map .act

def ticks (size : Nat) : Turn → List Tick
  | act a => [.act a]
  | pass during => sweep during (List.range size)

def history (size : Nat) (turns : List Turn) : List Tick := turns.flatMap (ticks size)

end Turn

/-- A callback that was added, unless it has been removed, and what it called so far. -/
structure Track where
  now : Option Callback
  called : List Event := []

def Track.poll (t : Track) (b : Board) : Track × Board :=
  match t.now with
  | none => (t, b)
  | some c =>
    let p := c.poll b
    (⟨if p.done then none else some p.left, t.called ++ p.events⟩, p.board)

end Processor

/-- The callbacks in the order in which they were added, and the slots. -/
structure Processor where
  tracks : List Processor.Track
  board : Board

namespace Processor

def start (cs : List Callback) (b : Board) : Processor := ⟨cs.map fun c => ⟨some c, []⟩, b⟩

/-- The callbacks that have not been removed. -/
def pending (p : Processor) : List Callback := p.tracks.filterMap Track.now

def tick (p : Processor) : Tick → Processor
  | .act a => { p with board := a.on p.board }
  | .poll n =>
    match p.tracks[n]? with
    | none => p
    | some t => ⟨p.tracks.set n (t.poll p.board).1, (t.poll p.board).2⟩

def run (p : Processor) (ts : List Tick) : Processor := ts.foldl tick p

def asksOf (p : Processor) (k : Kind) : Tick → List (Ask k)
  | .act (.take k' i) => p.board.asks none k' i k
  | .act _ => []
  | .poll n =>
    match p.tracks[n]?.bind Track.now with
    | none => []
    | some c => c.asks (some n) p.board k

/-- All that is asked in a run, in order. -/
def asks (k : Kind) : List Tick → Processor → List (Ask k)
  | [], _ => []
  | t :: ts, p => p.asksOf k t ++ asks k ts (p.tick t)

def Tick.settle (b : Board) : Tick → Board
  | act a => a.settle b
  | poll _ => b

/-- The slots after some ticks, had nobody taken a result. -/
def fate (b : Board) (ts : List Tick) : Board := ts.foldl Tick.settle b

variable {b : Board} {k k' : Kind} {i i' n : Nat}

theorem Act.settles (a : Act) (k : Kind) (i : Nat) :
    ∃ f, Settles f ∧ ∀ b, (a.settle b).slotAt k i = f (b.slotAt k i) := by
  -- a change to slot `j` alone, which leaves a broken slot as it is
  have one (k' : Kind) (j : Nat) {g : Slot k'.Payload → Slot k'.Payload} (hg : Settles g)
      (broken : g .broken = .broken) : ∃ f, Settles f ∧
        ∀ b : Board, (b.put k' j (g (b.slotAt k' j))).slotAt k i = f (b.slotAt k i) := by
    by_cases hk : k = k'
    · subst hk
      by_cases hi : i = j
      · exact ⟨g, hg, fun b => by rw [b.slotAt_put k j i broken, if_pos hi]⟩
      · exact ⟨id, .keeps fun _ => rfl, fun b => by rw [b.slotAt_put k j i broken, if_neg hi]; rfl⟩
    · exact ⟨id, .keeps fun _ => rfl, fun b => Board.slotAt_put_ne hk _⟩
  cases a with
  | set k' j v => exact one k' j (.sets v fun _ => rfl) rfl
  | abandon k' j => exact one k' j (.abandons fun _ => rfl) rfl
  | take k' j => exact ⟨id, .keeps fun _ => rfl, fun _ => rfl⟩

theorem Tick.settles (t : Tick) (k : Kind) (i : Nat) :
    ∃ f, Settles f ∧ ∀ b, (t.settle b).slotAt k i = f (b.slotAt k i) := by
  cases t with
  | act a => exact a.settles k i
  | poll n => exact ⟨id, .keeps fun _ => rfl, fun _ => rfl⟩

variable {p : Processor} {t : Tick} {ts us : List Tick} {c : Callback} {called : List Event}

theorem run_append (p : Processor) (ts us : List Tick) : p.run (ts ++ us) = (p.run ts).run us :=
  List.foldl_append

theorem asks_append (p : Processor) (k : Kind) (ts us : List Tick) :
    p.asks k (ts ++ us) = p.asks k ts ++ (p.run ts).asks k us := by
  induction ts generalizing p with
  | nil => rfl
  | cons t ts ih =>
    have rest := ih (p.tick t)
    simp only [List.cons_append, asks, rest, List.append_assoc]
    rfl

theorem run_concat (p : Processor) (ts : List Tick) (t : Tick) :
    p.run (ts ++ [t]) = (p.run ts).tick t := by
  rw [run_append]
  rfl

theorem asks_concat (p : Processor) (k : Kind) (ts : List Tick) (t : Tick) :
    p.asks k (ts ++ [t]) = p.asks k ts ++ (p.run ts).asksOf k t := by
  rw [asks_append, asks, asks, List.append_nil]

theorem tick_shared {xs : List (Option k'.Payload)}
    (h : Shared (b.slotAt k' i') xs (p.board.slotAt k' i')) (t : Tick) :
    Shared ((t.settle b).slotAt k' i') (xs ++ Ask.gots i' (p.asksOf k' t))
      ((p.tick t).board.slotAt k' i') := by
  obtain ⟨f, hf, settle⟩ := t.settles k' i'
  rw [settle]
  have settled := h.settle hf
  cases t with
  | act a =>
    cases a with
    | take k i =>
      have same : f (b.slotAt k' i') = b.slotAt k' i' := (settle b).symm
      rw [same]
      exact h.take none k i
    | set k i a =>
      have other : ((Act.set k i a).on p.board).slotAt k' i' = f (p.board.slotAt k' i') :=
        settle p.board
      simpa [asksOf, tick, Ask.gots, other] using settled
    | abandon k i =>
      have other : ((Act.abandon k i).on p.board).slotAt k' i' = f (p.board.slotAt k' i') :=
        settle p.board
      simpa [asksOf, tick, Ask.gots, other] using settled
  | poll n =>
    have same : f (b.slotAt k' i') = b.slotAt k' i' := (settle b).symm
    rw [same]
    simp only [asksOf, tick]
    cases p.tracks[n]? with
    | none => simpa [Ask.gots] using h
    | some t =>
      obtain ⟨now, called⟩ := t
      cases now with
      | none => simpa [Ask.gots, Track.poll] using h
      | some c => exact h.poll (some n) c

/-- Every slot is shared among those that asked for it. -/
theorem run_shared (p : Processor) (k : Kind) (i : Nat) (ts : List Tick) :
    Shared ((fate p.board ts).slotAt k i) (Ask.gots i (p.asks k ts))
      ((p.run ts).board.slotAt k i) := by
  induction ts using List.reverseRecOn with
  | nil => exact .untouched
  | append_singleton ts t ih =>
    have fates : fate p.board (ts ++ [t]) = t.settle (fate p.board ts) := by simp [fate]
    rw [fates, run_concat, asks_concat, Ask.gots_append]
    exact tick_shared ih t

theorem status_fate (h : b.status k i ≠ .timeout) (ts : List Tick) :
    (fate b ts).status k i = b.status k i := by
  induction ts generalizing b with
  | nil => rfl
  | cons t ts ih =>
    obtain ⟨f, hf, settle⟩ := t.settles k i
    have settled : b.slotAt k i ≠ .pending := by
      intro pending
      have timeout : b.status k i = (Slot.pending : Slot k.Payload).status := congrArg _ pending
      exact h timeout
    have same : (t.settle b).status k i = b.status k i := by
      change ((t.settle b).slotAt k i).status = (b.slotAt k i).status
      rw [settle, hf.kept settled]
    rw [← same] at h ⊢
    exact ih h

/-- What a consumer is told of a settled slot stays the same. -/
theorem status_run_of_settled (h : p.board.status k i ≠ .timeout) (ts : List Tick) :
    (p.run ts).board.status k i = p.board.status k i := by
  have status : (p.run ts).board.status k i = (fate p.board ts).status k i :=
    (p.run_shared k i ts).status
  rw [status, status_fate h]

theorem tick_tracks_of_ne (h : t ≠ .poll n) : (p.tick t).tracks[n]? = p.tracks[n]? := by
  cases t with
  | act a => rfl
  | poll m =>
    have other : m ≠ n := by
      rintro rfl
      exact h rfl
    simp only [tick]
    cases p.tracks[m]? with
    | none => rfl
    | some t => simp [List.getElem?_set_ne other]

theorem run_tracks_of_unpolled (h : .poll n ∉ ts) : (p.run ts).tracks[n]? = p.tracks[n]? := by
  induction ts generalizing p with
  | nil => rfl
  | cons t ts ih =>
    have head : t ≠ .poll n := fun ht => h (by simp [ht])
    have tail : .poll n ∉ ts := fun hts => h (by simp [hts])
    exact (ih tail).trans (tick_tracks_of_ne head)

theorem tick_poll {t : Track} (h : p.tracks[n]? = some t) :
    (p.tick (.poll n)).tracks[n]? = some (t.poll p.board).1 := by
  have within := (List.getElem?_eq_some_iff.1 h).1
  simp [tick, h, List.getElem?_set_self within]

theorem asksOf_poll {called : List Event} (h : p.tracks[n]? = some ⟨some c, called⟩) :
    Ask.askedBy n (p.asksOf k (.poll n)) = c.asks (some n) p.board k := by
  simp only [asksOf, h, Option.bind_some, Ask.askedBy, List.filter_eq_self, decide_eq_true_eq]
  intro x hx
  exact Callback.who_of_mem_asks hx

/-- A removed callback asks for nothing. -/
theorem asksOf_poll_removed (h : p.tracks[n]? = some ⟨none, called⟩) :
    p.asksOf k (.poll n) = [] := by
  simp only [asksOf, h, Option.bind_some]

theorem asksOf_of_ne (h : t ≠ .poll n) : Ask.askedBy n (p.asksOf k t) = [] := by
  simp only [Ask.askedBy, List.filter_eq_nil_iff, decide_eq_true_eq]
  intro x hx who
  cases t with
  | act a =>
    cases a with
    | set | abandon => cases hx
    | take k' i =>
      rw [Board.who_of_mem_asks hx] at who
      cases who
  | poll m =>
    simp only [asksOf] at hx
    split at hx
    · cases hx
    · rw [Callback.who_of_mem_asks hx] at who
      cases who
      exact h rfl

/-- The first poll of callback `n` that found slot `i` settled found it so. -/
def FirstFound (p : Processor) (ts : List Tick) (n : Nat) (k : Kind) (i : Nat) (st : Status) : Prop :=
  ∃ us, us ++ [.poll n] <+: ts ∧ (p.run us).board.status k i = st ∧
    ∀ vs, vs ++ [.poll n] <+: us → (p.run vs).board.status k i = .timeout

/-- How callback `n` stands after some ticks. Nothing is called before a poll finds slot `i` settled;
with the first that does, the callback has made its calls and is removed. It asks for the result
once, if there is one to ask for. -/
inductive Stage (p : Processor) (ts : List Tick) (n : Nat) (c : Callback) (k : Kind) (i : Nat)
    (calls : Option k.Payload → List Event) : Prop where
  | waits (early : ∀ us, us ++ [.poll n] <+: ts → (p.run us).board.status k i = .timeout)
      (track : (p.run ts).tracks[n]? = some ⟨some c, []⟩)
      (asked : Ask.askedBy n (p.asks k ts) = [])
  | gone (found : p.FirstFound ts n k i .broken)
      (track : (p.run ts).tracks[n]? = some ⟨none, calls none⟩)
      (asked : Ask.askedBy n (p.asks k ts) = [])
  | served (got : Option k.Payload) (found : p.FirstFound ts n k i .ready)
      (track : (p.run ts).tracks[n]? = some ⟨none, calls got⟩)
      (asked : Ask.askedBy n (p.asks k ts) = [⟨some n, i, got⟩])

variable {p : Processor} {t : Tick} {ts us : List Tick} {c : Callback} {called : List Event}
  {calls : Option k.Payload → List Event}

theorem askedBy_concat (p : Processor) (k : Kind) (n : Nat) (ts : List Tick) (t : Tick) :
    Ask.askedBy n (p.asks k (ts ++ [t])) =
      Ask.askedBy n (p.asks k ts) ++ Ask.askedBy n ((p.run ts).asksOf k t) := by
  rw [asks_concat, Ask.askedBy_append]

theorem removed_stays (h : p.tracks[n]? = some ⟨none, called⟩) (ts : List Tick) :
    (p.run ts).tracks[n]? = some ⟨none, called⟩ := by
  induction ts generalizing p with
  | nil => exact h
  | cons t ts ih =>
    by_cases ht : t = .poll n
    · subst ht
      exact ih (tick_poll h)
    · exact ih ((tick_tracks_of_ne ht).trans h)

theorem FirstFound.more {st : Status} (h : p.FirstFound ts n k i st) (us : List Tick) :
    p.FirstFound (ts ++ us) n k i st := by
  obtain ⟨vs, poll, status, early⟩ := h
  exact ⟨vs, poll.trans (List.prefix_append ts us), status, early⟩

theorem asksOf_removed (h : p.tracks[n]? = some ⟨none, called⟩) (k : Kind) (t : Tick) :
    Ask.askedBy n (p.asksOf k t) = [] := by
  by_cases ht : t = .poll n
  · rw [ht, asksOf_poll_removed h]
    rfl
  · exact asksOf_of_ne ht

/-- A poll of a callback that waits either finds its slot pending or is the last. -/
theorem Stage.poll (once : c.Once k i calls)
    (early : ∀ us, us ++ [.poll n] <+: ts → (p.run us).board.status k i = .timeout)
    (track : (p.run ts).tracks[n]? = some ⟨some c, []⟩)
    (asked : Ask.askedBy n (p.asks k ts) = []) : p.Stage (ts ++ [.poll n]) n c k i calls := by
  have polled := tick_poll track
  have asks := asksOf_poll (k := k) track
  rw [once.asks] at asks
  rw [← run_concat] at polled
  cases hs : (p.run ts).board.status k i with
  | timeout =>
    have notReady : (p.run ts).board.status k i ≠ .ready := by simp [hs]
    refine .waits ?_ ?_ ?_
    · intro us hus
      rcases List.prefix_concat_iff.1 hus with last | earlier
      · rw [List.append_cancel_right last]
        exact hs
      · exact early us earlier
    · simp [polled, Track.poll, once.waits _ hs]
    · rw [askedBy_concat, asked, asks, Board.asks_of_not_ready _ notReady]
      rfl
  | broken =>
    have notReady : (p.run ts).board.status k i ≠ .ready := by simp [hs]
    obtain ⟨done, events⟩ := once.gone _ hs
    refine .gone ⟨ts, List.prefix_rfl, hs, early⟩ ?_ ?_
    · simp [polled, Track.poll, done, events]
    · rw [askedBy_concat, asked, asks, Board.asks_of_not_ready _ notReady]
      rfl
  | ready =>
    obtain ⟨done, events⟩ := once.served _ hs
    refine .served ((p.run ts).board.take k i).1 ⟨ts, List.prefix_rfl, hs, early⟩ ?_ ?_
    · simp [polled, Track.poll, done, events]
    · rw [askedBy_concat, asked, asks, Board.asks_of_ready _ hs]
      rfl

theorem Stage.tick (once : c.Once k i calls) (h : p.Stage ts n c k i calls) (t : Tick) :
    p.Stage (ts ++ [t]) n c k i calls := by
  cases h with
  | waits early track asked =>
    by_cases ht : t = .poll n
    · subst ht
      exact .poll once early track asked
    · refine .waits ?_ ?_ ?_
      · intro us hus
        rcases List.prefix_concat_iff.1 hus with last | earlier
        · have poll : [Tick.poll n] = [t] := (List.append_inj' last rfl).2
          cases poll
          exact absurd rfl ht
        · exact early us earlier
      · rw [run_concat, tick_tracks_of_ne ht, track]
      · rw [askedBy_concat, asked, asksOf_of_ne ht]
        rfl
  | gone found track asked =>
    refine .gone (found.more [t]) ?_ ?_
    · rw [run_append, removed_stays track]
    · rw [askedBy_concat, asked, asksOf_removed track]
      rfl
  | served got found track asked =>
    refine .served got (found.more [t]) ?_ ?_
    · rw [run_append, removed_stays track]
    · rw [askedBy_concat, asked, asksOf_removed track]
      rfl

theorem stage (once : c.Once k i calls) (h : p.tracks[n]? = some ⟨some c, []⟩) (ts : List Tick) :
    p.Stage ts n c k i calls := by
  induction ts using List.reverseRecOn with
  | nil => exact .waits (fun us h => by simp at h) h rfl
  | append_singleton ts t ih => exact ih.tick once t

/-- The links of a chain are called with what the chain got, in order. -/
theorem chain_results {c : Chain} (h : p.tracks[n]? = some ⟨some (.query c), []⟩) (ts : List Tick) :
    ∃ t, (p.run ts).tracks[n]? = some t ∧ (∀ d, t.now = some d → ∃ c', d = .query c') ∧
      t.called.map Event.result? =
        (Ask.askedBy n (p.asks .rows ts)).map fun x => some x.result := by
  induction ts using List.reverseRecOn with
  | nil =>
    refine ⟨_, h, ?_, rfl⟩
    rintro d ⟨⟩
    exact ⟨c, rfl⟩
  | append_singleton ts t ih =>
    obtain ⟨⟨now, called⟩, track, chain, results⟩ := ih
    rw [askedBy_concat, List.map_append, ← results, run_concat]
    by_cases ht : t = .poll n
    · subst ht
      refine ⟨_, tick_poll track, ?_⟩
      cases now with
      | none =>
        rw [asksOf_poll_removed track]
        exact ⟨nofun, by simp [Track.poll, Ask.askedBy]⟩
      | some d =>
        obtain ⟨c', rfl⟩ := chain d rfl
        have asks := asksOf_poll (k := .rows) track
        rw [asks]
        constructor
        · intro d hd
          simp only [Track.poll] at hd
          split at hd
          · cases hd
          · cases hd
            exact ⟨_, rfl⟩
        · have poll := Chain.results_pollFrom (some n) c'.awaited c'.links (p.run ts).board
          simp only [Track.poll, List.map_append]
          exact congrArg _ poll
    · refine ⟨⟨now, called⟩, (tick_tracks_of_ne ht).trans track, chain, ?_⟩
      rw [asksOf_of_ne ht]
      simp

theorem mem_sweep {during : Nat → List Act} {ns : List Nat} :
    .poll n ∈ Turn.sweep during ns ↔ n ∈ ns := by
  simp [Turn.sweep]

theorem range_split (n m : Nat) :
    List.range (n + m + 1) = List.range n ++ n :: List.range' (n + 1) m := by
  have ends : List.range' 0 n ++ List.range' (0 + n) (m + 1) = List.range' 0 (n + (m + 1)) :=
    List.range'_append_1
  rw [List.range_eq_range', List.range_eq_range', Nat.add_assoc, ← ends, Nat.zero_add,
    List.range'_succ]

/-- In a pass a callback is polled once, after those that were added before it. -/
theorem pass_polls {t : Track} (h : p.tracks[n]? = some t) (during : Nat → List Act) :
    (p.run ((Turn.pass during).ticks p.tracks.length)).tracks[n]? =
      some (t.poll (p.run (Turn.before during n)).board).1 := by
  obtain ⟨m, size⟩ := Nat.exists_eq_add_of_lt (List.getElem?_eq_some_iff.1 h).1
  have ticks : (Turn.pass during).ticks p.tracks.length =
      Turn.before during n ++ .poll n :: Turn.sweep during (List.range' (n + 1) m) := by
    rw [size, Turn.ticks, range_split, Turn.before]
    simp [Turn.sweep]
  have earlier : .poll n ∉ Turn.before during n := by simp [Turn.before, mem_sweep]
  have later : .poll n ∉ Turn.sweep during (List.range' (n + 1) m) := by
    simp [mem_sweep, List.mem_range']
    omega
  rw [ticks, run_append]
  have found := (run_tracks_of_unpolled earlier).trans h
  exact (run_tracks_of_unpolled later).trans (tick_poll found)

/-- By induction on the callbacks that the pass has yet to come to. -/
theorem run_sweep (done rest : List Track) (b : Board) :
    ∃ rest' : List Track, let r := Callback.pollAll (rest.filterMap Track.now) b
      (Processor.mk (done ++ rest) b).run
          (Turn.sweep (fun _ => []) (List.range' done.length rest.length)) =
        ⟨done ++ rest', r.board⟩ ∧ rest'.filterMap Track.now = r.kept := by
  induction rest generalizing done b with
  | nil => exact ⟨[], rfl, rfl⟩
  | cons t rest ih =>
    obtain ⟨rest', swept, kept⟩ := ih (done ++ [(t.poll b).1]) (t.poll b).2
    have polled : (Processor.mk (done ++ t :: rest) b).tick (.poll done.length) =
        ⟨(done ++ [(t.poll b).1]) ++ rest, (t.poll b).2⟩ := by
      simp [tick]
    have ticks : Turn.sweep (fun _ => []) (List.range' done.length (t :: rest).length) =
        .poll done.length :: Turn.sweep (fun _ => []) (List.range' (done.length + 1) rest.length) := by
      simp [Turn.sweep, List.range'_succ]
    have run : (Processor.mk (done ++ t :: rest) b).run
        (Turn.sweep (fun _ => []) (List.range' done.length (t :: rest).length)) =
          ⟨(done ++ [(t.poll b).1]) ++ rest',
            (Callback.pollAll (rest.filterMap Track.now) (t.poll b).2).board⟩ := by
      rw [ticks, ← swept, List.length_append]
      exact congrArg (Processor.run · _) polled
    refine ⟨(t.poll b).1 :: rest', ?_⟩
    rw [run, List.append_assoc]
    obtain ⟨now, called⟩ := t
    cases now with
    | none => exact ⟨rfl, kept⟩
    | some c =>
      simp only [Track.poll] at kept ⊢
      cases hdone : (c.poll b).done with
      | true => simp [Callback.pollAll, hdone, kept]
      | false => simp [Callback.pollAll, hdone, kept]

/-- A pass during which nobody else acts is the program's. -/
theorem quiet_pass (p : Processor) :
    let quiet := p.run ((Turn.pass fun _ => []).ticks p.tracks.length)
    let r := Callback.pollAll p.pending p.board
    quiet.pending = r.kept ∧ quiet.board = r.board := by
  obtain ⟨rest', swept, kept⟩ := run_sweep [] p.tracks p.board
  have ticks : (Turn.pass fun _ => []).ticks p.tracks.length =
      Turn.sweep (fun _ => []) (List.range' 0 p.tracks.length) := by
    rw [Turn.ticks, List.range_eq_range']
  intro quiet r
  have after : quiet = ⟨rest', r.board⟩ := by
    simp only [quiet]
    rw [ticks]
    exact swept
  rw [after]
  exact ⟨kept, rfl⟩

theorem length_tracks_run (p : Processor) (ts : List Tick) :
    (p.run ts).tracks.length = p.tracks.length := by
  induction ts generalizing p with
  | nil => rfl
  | cons t ts ih =>
    have one : (p.tick t).tracks.length = p.tracks.length := by
      cases t with
      | act a => rfl
      | poll n =>
        simp only [tick]
        split <;> simp
    exact (ih (p.tick t)).trans one

theorem start_tracks {cs : List Callback} {c : Callback} (h : cs[n]? = some c) (b : Board) :
    (start cs b).tracks[n]? = some ⟨some c, []⟩ := by
  simp [start, h]

/-- Callbacks that wait for any slots, under any settlements, outside takes and passes.

In a pass each callback that has not been removed is polled once, after those that were added before
it; it is removed if it is done, and what it called is added to what it called before. If nobody
else acts meanwhile, that is the pass of the program, which counts the callbacks that it removes.

The first that asks for the result of a settled slot gets it and the others get nothing. What is
settled stays so. The first poll that finds the slot of a commit or of a batch settled makes the one
call that there is to make: for a commit with the flag that it gets, or with a failure; for a batch
if it gets the batch. The links of a query's chain are called with what the chain gets. A callback
that was removed calls nothing more. -/
theorem served_in_passes (cs : List Callback) (b : Board) (turns : List Turn) :
    let ts := Turn.history cs.length turns
    let p := (start cs b).run ts
    (∀ (during : Nat → List Act) (n : Nat) (t : Track), p.tracks[n]? = some t →
      (p.run ((Turn.pass during).ticks cs.length)).tracks[n]? =
        some (t.poll (p.run (Turn.before during n)).board).1) ∧
    (let quiet := p.run ((Turn.pass fun _ => []).ticks cs.length)
      let r := Callback.pollAll p.pending p.board
      quiet.pending = r.kept ∧ quiet.board = r.board ∧
        ∃ ps, Callback.Polls p.pending p.board ps r.board ∧
          r.kept = (ps.filter fun p => !p.done).map Polled.left ∧
          r.finished = ps.countP Polled.done ∧ r.events = ps.flatMap Polled.events) ∧
    (∀ (k : Kind) (i : Nat),
      Shared ((fate b ts).slotAt k i) (Ask.gots i ((start cs b).asks k ts)) (p.board.slotAt k i) ∧
      (p.board.status k i ≠ .timeout →
        ∀ us : List Tick, (p.run us).board.status k i = p.board.status k i)) ∧
    (∀ (n i : Nat) (label : Option String), cs[n]? = some (.commit i label) →
      (start cs b).Stage ts n (.commit i label) .flag i (Callback.commitCalls label)) ∧
    (∀ (n i : Nat) (label : Option String), cs[n]? = some (.batch i label) →
      (start cs b).Stage ts n (.batch i label) .batch i (Callback.batchCalls label)) ∧
    (∀ (n : Nat) (c : Chain), cs[n]? = some (.query c) → ∃ t, p.tracks[n]? = some t ∧
      t.called.map Event.result? =
        (Ask.askedBy n ((start cs b).asks .rows ts)).map fun x => some x.result) ∧
    ∀ (n : Nat) (called : List Event) (us : List Tick), p.tracks[n]? = some ⟨none, called⟩ →
      (p.run us).tracks[n]? = some ⟨none, called⟩ := by
  intro ts p
  have size : cs.length = p.tracks.length := by
    rw [length_tracks_run]
    simp [start]
  refine ⟨?_, ?_, ?_, ?_, ?_, ?_, ?_⟩
  · intro during n t h
    rw [size]
    exact pass_polls h during
  · intro quiet r
    obtain ⟨kept, board⟩ := quiet_pass p
    rw [← size] at kept board
    exact ⟨kept, board, Callback.pollAll_polls p.pending p.board⟩
  · intro k i
    exact ⟨run_shared (start cs b) k i ts, fun settled us => status_run_of_settled settled us⟩
  · intro n i label h
    exact stage (Callback.commit_once i label) (start_tracks h b) ts
  · intro n i label h
    exact stage (Callback.batch_once i label) (start_tracks h b) ts
  · intro n c h
    obtain ⟨t, track, -, results⟩ := chain_results (start_tracks h b) ts
    exact ⟨t, track, results⟩
  · intro n called us h
    exact removed_stays h us

/-- Two commits that wait for one flag, and a batch. -/
def rivals : List Callback := [.commit 0 (some "a"), .commit 0 (some "b"), .batch 0 (some "c")]

def onePending : Board := ⟨fun _ => [.pending]⟩

/-- The flag is set when a pass has left the first commit behind; the batch is given up. -/
def overtaken : List Turn :=
  [.pass fun n => if n = 1 then [.set .flag 0 true] else [], .act (.abandon .batch 0),
    .pass fun _ => [], .act (.take .flag 0), .pass fun _ => []]

theorem served_in_passes_overtaken :
    let ts := Turn.history rivals.length overtaken
    ((start rivals onePending).run ts).tracks =
      [⟨none, [.outcome "a" false]⟩, ⟨none, [.outcome "b" true]⟩, ⟨none, []⟩] ∧
    Shared (.ready true) [some true, none, none] (Slot.taken (α := Bool)) ∧
    (start rivals onePending).Stage ts 1 (.commit 0 (some "b")) .flag 0
      (Callback.commitCalls (some "b")) ∧
    (start rivals onePending).Stage ts 2 (.batch 0 (some "c")) .batch 0
      (Callback.batchCalls (some "c")) := by
  obtain ⟨-, -, shared, commits, batches, -⟩ := served_in_passes rivals onePending overtaken
  exact ⟨by rfl, (shared .flag 0).1, commits 1 0 _ rfl, batches 2 0 _ rfl⟩

end Processor

end QueryPool
