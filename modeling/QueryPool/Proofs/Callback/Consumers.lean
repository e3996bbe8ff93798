import QueryPool.Callback.Processor

namespace QueryPool

namespace Slot

/-- What the consumers of a slot got, and what the slot is then, if it would be `fate` had nobody
taken from it. The first that asks gets what it was settled with, unless that was taken before; the
others get nothing. -/
inductive Shared {α : Type} (fate : Slot α) : List (Option α) → Slot α → Prop where
  | untouched : Shared fate [] fate
  | given (a : α) (n : Nat) (h : fate = .ready a) :
      Shared fate (some a :: List.replicate n none) .taken
  | tooLate (n : Nat) (h : fate = .taken) : Shared fate (List.replicate n none) .taken

/-- What others can do to a slot, apart from taking. -/
inductive Settles {α : Type} (f : Slot α → Slot α) : Prop where
  | keeps (h : ∀ s, f s = s)
  | sets (a : α) (h : ∀ s, f s = (s.set a).2)
  | abandons (h : ∀ s, f s = s.abandon)

variable {α : Type} {f : Slot α → Slot α} {s fate now : Slot α} {xs : List (Option α)}

theorem Settles.kept (hf : Settles f) (settled : s ≠ .pending) : f s = s := by
  cases hf with
  | keeps hf => exact hf s
  | sets a hf => rw [hf, set_of_settled settled]
  | abandons hf => rw [hf, abandon_of_settled settled]

theorem Shared.settle (h : Shared fate xs now) (hf : Settles f) : Shared (f fate) xs (f now) := by
  cases h with
  | untouched => exact .untouched
  | given a n h =>
    subst h
    rw [hf.kept (by simp), hf.kept (by simp)]
    exact .given a n rfl
  | tooLate n h =>
    subst h
    rw [hf.kept (by simp)]
    exact .tooLate n rfl

theorem Shared.ask (h : Shared fate xs now) (ready : now.status = .ready) :
    Shared fate (xs ++ [now.take.1]) now.take.2 := by
  have nothing : (Slot.taken : Slot α).take = (none, .taken) := rfl
  cases h with
  | untouched =>
    cases fate with
    | ready a => exact .given a 0 rfl
    | taken => exact .tooLate 1 rfl
    | pending | broken => cases ready
  | given a n h =>
    have more : some a :: List.replicate n none ++ [none] =
        some a :: List.replicate (n + 1) none := by
      rw [List.replicate_succ', List.cons_append]
    rw [nothing, more]
    exact .given a (n + 1) h
  | tooLate n h =>
    rw [nothing, ← List.replicate_succ']
    exact .tooLate (n + 1) h

theorem Shared.status (h : Shared fate xs now) : now.status = fate.status := by
  cases h with
  | untouched => rfl
  | given a n h =>
    rw [h]
    rfl
  | tooLate n h => rw [h]

end Slot

/-- A consumer that looked for the result of a settled slot, and what it got. Callbacks are named by
their number; nobody's number is that of somebody outside. -/
structure Callback.Ask (k : Kind) where
  who : Option Nat
  slot : Nat
  got : Option k.Payload

/-- What is asked, of the slots of kind `k'`, by one who takes from slot `i` of kind `k`. -/
def Board.asks (b : Board) (who : Option Nat) (k : Kind) (i : Nat) (k' : Kind) :
    List (Callback.Ask k') :=
  if k' = k ∧ b.status k' i = .ready then [⟨who, i, (b.take k' i).1⟩] else []

variable {b : Board} {k k' : Kind} {i i' n : Nat} {who : Option Nat}

theorem Board.asks_of_not_ready (who : Option Nat) (h : b.status k i ≠ .ready) (k' : Kind) :
    b.asks who k i k' = [] := by
  have other : ¬(k' = k ∧ b.status k' i = .ready) := by
    rintro ⟨rfl, ready⟩
    exact h ready
  rw [asks, if_neg other]

theorem Board.asks_of_ready (who : Option Nat) (h : b.status k i = .ready) :
    b.asks who k i k = [⟨who, i, (b.take k i).1⟩] := by
  simp [asks, h]

theorem Board.who_of_mem_asks {x : Callback.Ask k'} (h : x ∈ b.asks who k i k') : x.who = who := by
  unfold asks at h
  split at h
  · rw [List.mem_singleton.1 h]
  · cases h

namespace Callback

namespace Ask

/-- What the consumers of slot `i` got. -/
def gots (i : Nat) (xs : List (Ask k)) : List (Option k.Payload) :=
  (xs.filter (·.slot = i)).map got

/-- What callback `n` asked. -/
def askedBy (n : Nat) (xs : List (Ask k)) : List (Ask k) := xs.filter (·.who = some n)

/-- A query that failed and one whose rows are gone look the same. -/
def result (x : Ask .rows) : Option Cursor := Option.join x.got

theorem gots_append (i : Nat) (xs ys : List (Ask k)) :
    gots i (xs ++ ys) = gots i xs ++ gots i ys := by
  simp [gots]

theorem askedBy_append (n : Nat) (xs ys : List (Ask k)) :
    askedBy n (xs ++ ys) = askedBy n xs ++ askedBy n ys := by
  simp [askedBy]

end Ask

def Chain.asksFrom (who : Option Nat) :
    Option Nat → List Continuation → Board → (k : Kind) → List (Ask k)
  | some i, link :: links, b, k =>
    if b.status .rows i = .ready then
      let result : Option Cursor := (b.take .rows i).1.join
      b.asks who .rows i k ++ if links.isEmpty then []
        else asksFrom who (link.begun result).getLast? links (b.take .rows i).2 k
    else []
  | _, _, _, _ => []

/-- What a callback asks when it is polled. -/
def asks (who : Option Nat) (c : Callback) (b : Board) (k : Kind) : List (Ask k) :=
  match c with
  | query c => Chain.asksFrom who c.awaited c.links b k
  | commit i _ => b.asks who .flag i k
  | batch i _ => b.asks who .batch i k

theorem Chain.who_of_mem_asksFrom {x : Ask k} (awaited : Option Nat) (links : List Continuation)
    (b : Board) (h : x ∈ asksFrom who awaited links b k) : x.who = who := by
  fun_induction asksFrom who awaited links b k with
  | case1 i link links b k ready result =>
    rename_i ih
    rcases List.mem_append.1 h with h | h
    · exact Board.who_of_mem_asks h
    · split at h
      · cases h
      · exact ih h
  | case2 | case3 => cases h

theorem who_of_mem_asks {c : Callback} {x : Ask k} (h : x ∈ c.asks who b k) : x.who = who := by
  cases c with
  | query c => exact Chain.who_of_mem_asksFrom _ _ _ h
  | commit i label | batch i label => exact Board.who_of_mem_asks h

end Callback

open Callback (Ask Chain Continuation Event Polled)

namespace Slot.Shared

variable {fate : Slot k'.Payload} {xs : List (Option k'.Payload)}

theorem take (h : Shared fate xs (b.slotAt k' i')) (who : Option Nat) (k : Kind) (i : Nat) :
    Shared fate (xs ++ Ask.gots i' (b.asks who k i k')) ((b.take k i).2.slotAt k' i') := by
  rw [Board.slotAt_take]
  by_cases hk : k' = k
  · subst hk
    by_cases ready : b.status k' i = .ready
    · rw [Board.asks_of_ready who ready]
      by_cases hi : i' = i
      · subst hi
        have got : (b.take k' i').1 = (b.slotAt k' i').take.1 := rfl
        simpa [Ask.gots, got] using h.ask ready
      · have hi' : i ≠ i' := fun h => hi h.symm
        simpa [Ask.gots, hi, hi'] using h
    · rw [Board.asks_of_not_ready who ready]
      by_cases hi : i' = i
      · subst hi
        have same : (b.slotAt k' i').take.2 = b.slotAt k' i' := take_of_not_ready ready
        simpa [Ask.gots, same] using h
      · simpa [Ask.gots, hi] using h
  · simpa [Ask.gots, Board.asks, hk] using h

/-- What is not ready is asked for by nobody. -/
theorem look (h : Shared fate xs (b.slotAt k' i')) (notReady : b.status k i ≠ .ready) :
    Shared fate (xs ++ Ask.gots i' (b.asks who k i k')) (b.slotAt k' i') := by
  rw [Board.asks_of_not_ready who notReady]
  simpa [Ask.gots] using h

theorem pollChain (h : Shared fate xs (b.slotAt k' i')) (who : Option Nat) (awaited : Option Nat)
    (links : List Continuation) :
    Shared fate (xs ++ Ask.gots i' (Chain.asksFrom who awaited links b k'))
      ((Chain.pollFrom awaited links b).board.slotAt k' i') := by
  fun_induction Chain.pollFrom awaited links b generalizing xs with
  | case1 links b => simpa [Chain.asksFrom, Ask.gots] using h
  | case2 i b links hs | case3 i links b hs =>
    cases links <;> simpa [Chain.asksFrom, Ask.gots, hs] using h
  | case4 i b hs => simpa [Chain.asksFrom, Ask.gots] using h
  | case5 i b link links hs r b' ht result event =>
    rename_i hlinks
    have took := h.take who .rows i
    rw [ht] at took
    simpa [Chain.asksFrom, hs, hlinks] using took
  | case6 i b link links hs r b' ht result event hlinks p =>
    rename_i ih
    have took := h.take who .rows i
    rw [ht] at took
    have rest := ih took
    rw [List.append_assoc, ← Ask.gots_append] at rest
    simpa [Chain.asksFrom, hs, hlinks, ht] using rest

/-- A poll keeps account of every slot, whatever it asks for. -/
theorem poll (h : Shared fate xs (b.slotAt k' i')) (who : Option Nat) (c : Callback) :
    Shared fate (xs ++ Ask.gots i' (c.asks who b k')) ((c.poll b).board.slotAt k' i') := by
  cases c with
  | query c => exact h.pollChain who c.awaited c.links
  | commit i label =>
    simp only [Callback.asks, Callback.poll, Callback.pollCommit]
    cases hs : b.status .flag i with
    | ready => exact h.take who .flag i
    | timeout | broken => exact h.look (by simp [hs])
  | batch i label =>
    simp only [Callback.asks, Callback.poll, Callback.pollBatch]
    cases hs : b.status .batch i with
    | ready => exact h.take who .batch i
    | timeout | broken => exact h.look (by simp [hs])

end Slot.Shared

namespace Callback

/-- What a link of a chain was called with. -/
def Event.result? : Event → Option (Option Cursor)
  | rows _ result _ => some result
  | _ => none

/-- The links of a chain are called with what the chain gets. -/
theorem Chain.results_pollFrom (who : Option Nat) (awaited : Option Nat)
    (links : List Continuation) (b : Board) : (pollFrom awaited links b).events.map Event.result? =
      (asksFrom who awaited links b .rows).map fun x => some x.result := by
  have called (link : Continuation) (r : Option Cursor) (left : Nat) :
      (link.event r left).result? = some r := by
    cases link <;> rfl
  fun_induction pollFrom awaited links b with
  | case1 links b => simp [asksFrom]
  | case2 i b links hs | case3 i links b hs => cases links <;> simp [asksFrom, hs]
  | case4 i b hs => simp [asksFrom]
  | case5 i b link links hs r b' ht result event =>
    rename_i hlinks
    simp [asksFrom, hs, hlinks, ht, event, called, Board.asks_of_ready, Ask.result, result]
  | case6 i b link links hs r b' ht result event hlinks p =>
    rename_i ih
    simpa [asksFrom, hs, hlinks, ht, event, called, Board.asks_of_ready, Ask.result, result]
      using ih

/-- A callback that asks for one result, and is done as soon as that is settled. `calls` is what it
calls when it gets a result, or none. -/
structure Once (c : Callback) (k : Kind) (i : Nat) (calls : Option k.Payload → List Event) :
    Prop where
  waits : ∀ b, b.status k i = .timeout → c.poll b = ⟨false, c, b, []⟩
  gone : ∀ b, b.status k i = .broken → (c.poll b).done = true ∧ (c.poll b).events = calls none
  served : ∀ b, b.status k i = .ready →
    (c.poll b).done = true ∧ (c.poll b).events = calls (b.take k i).1
  asks : ∀ who b, c.asks who b k = b.asks who k i k

/-- A commit's continuation is told of a success only if it gets the flag that says so. -/
def commitCalls (label : Option String) (got : Option Bool) : List Event :=
  label.toList.map fun l => .outcome l (got.getD false)

/-- A batch's continuation is called only if it gets the batch. -/
def batchCalls (label : Option String) (got : Option Batch) : List Event :=
  got.toList.flatMap fun a => label.toList.map fun l => .batch l a

theorem commit_once (i : Nat) (label : Option String) :
    (commit i label).Once .flag i (commitCalls label) where
  waits b h := by simp only [poll, pollCommit, h]
  gone b h := by
    simp only [poll, pollCommit, h]
    exact ⟨trivial, rfl⟩
  served b h := by
    simp only [poll, pollCommit, h]
    exact ⟨trivial, rfl⟩
  asks who b := rfl

theorem batch_once (i : Nat) (label : Option String) :
    (batch i label).Once .batch i (batchCalls label) where
  waits b h := by simp only [poll, pollBatch, h]
  gone b h := by
    simp only [poll, pollBatch, h]
    exact ⟨trivial, rfl⟩
  served b h := by
    simp only [poll, pollBatch, h]
    exact ⟨trivial, rfl⟩
  asks who b := rfl

/-- Polls of callbacks one after the other, each of the slots that the one before left. -/
inductive Polls : List Callback → Board → List (Polled Callback) → Board → Prop where
  | nil (b : Board) : Polls [] b [] b
  | cons {c : Callback} {cs : List Callback} {b b' : Board} {ps : List (Polled Callback)}
      (rest : Polls cs (c.poll b).board ps b') : Polls (c :: cs) b (c.poll b :: ps) b'

/-- A pass keeps what reported that more is to come, and counts the rest. -/
theorem pollAll_polls (cs : List Callback) (b : Board) :
    ∃ ps, Polls cs b ps (pollAll cs b).board ∧
      (pollAll cs b).kept = (ps.filter fun p => !p.done).map Polled.left ∧
      (pollAll cs b).finished = ps.countP Polled.done ∧
      (pollAll cs b).events = ps.flatMap Polled.events := by
  induction cs generalizing b with
  | nil => exact ⟨[], .nil b, rfl, rfl, rfl⟩
  | cons c cs ih =>
    obtain ⟨ps, polls, kept, finished, events⟩ := ih (c.poll b).board
    have board : (pollAll (c :: cs) b).board = (pollAll cs (c.poll b).board).board := by
      simp only [pollAll]
      split <;> rfl
    rw [board]
    refine ⟨c.poll b :: ps, .cons polls, ?_⟩
    cases hdone : (c.poll b).done with
    | true => simp [pollAll, hdone, kept, finished, events]
    | false => simp [pollAll, hdone, kept, finished, events]

end Callback
end QueryPool
