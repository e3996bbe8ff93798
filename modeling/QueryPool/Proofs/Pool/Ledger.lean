import QueryPool.Proofs.Connection.Run
import QueryPool.Task

namespace QueryPool

/-- A job that ran and what it came to. -/
structure Ran where
  job : Job
  result : Except PoolError job.task.kind.Payload

/-- What happened to the server. -/
inductive Dealing where
  /-- a caller did this on some connections -/
  | caller (act : Link → Link)
  | script (d : Direction)
  | worker (x : Ran)

def Dealing.ran? : Dealing → Option Ran
  | caller _ | script _ => none
  | worker x => some x

structure Log where
  /-- the jobs that the queue took, in their order -/
  accepted : List Job := []
  refused : List Job := []
  dealings : List Dealing := []
  /-- the results that callers took out of slots -/
  given : List ((k : Kind) × Nat × k.Payload) := []

namespace Log

def ran (g : Log) : List Ran := g.dealings.filterMap Dealing.ran?

def jobs (g : Log) : List Job := g.accepted ++ g.refused

def offered (g : Log) (refuses : Bool) (js : List Job) : Log :=
  if refuses then { g with refused := g.refused ++ js } else { g with accepted := g.accepted ++ js }

def took (g : Log) (k : Kind) (i : Nat) : Option k.Payload → Log
  | none => g
  | some a => { g with given := g.given ++ [⟨k, i, a⟩] }

def dealt (g : Log) (d : Dealing) : Log := { g with dealings := g.dealings ++ [d] }

theorem jobs_offered (g : Log) (refuses : Bool) (j : Job) :
    (g.offered refuses [j]).jobs.Perm (g.jobs ++ [j]) := by
  cases refuses with
  | true => simp [jobs, offered]
  | false =>
    simp only [jobs, offered, Bool.false_eq_true, if_false, List.append_assoc]
    exact List.perm_append_comm.append_left g.accepted

theorem ran_offered (g : Log) (refuses : Bool) (js : List Job) :
    (g.offered refuses js).ran = g.ran ∧ (g.offered refuses js).given = g.given := by
  cases refuses <;> exact ⟨rfl, rfl⟩

theorem took_eq (g : Log) (k : Kind) (i : Nat) (r : Option k.Payload) :
    ∃ given, g.took k i r = { g with given } ∧ ∀ y ∈ g.given, y ∈ given := by
  cases r with
  | none => exact ⟨g.given, rfl, fun _ hy => hy⟩
  | some a => exact ⟨_, rfl, fun _ hy => List.mem_append_left _ hy⟩

theorem ran_dealt (g : Log) {d : Dealing} (h : d.ran? = none) : (g.dealt d).ran = g.ran := by
  simp [ran, dealt, h]

@[simp] theorem ran_worker (g : Log) (x : Ran) : (g.dealt (.worker x)).ran = g.ran ++ [x] := by
  simp [ran, dealt, Dealing.ran?]

end Log

namespace Job

variable {j j' : Job} {b b' b'' : Board}

/-- The job's own slot, if it has one, is the same on both boards. -/
def SameSlot (j : Job) (b b' : Board) : Prop :=
  ∀ i, j.slot = some i → b'.slot? j.task.kind i = b.slot? j.task.kind i

/-- Two jobs without a slot in common. -/
def Apart (j j' : Job) : Prop :=
  ∀ i i', j.slot = some i → j'.slot = some i' → ¬(j.task.kind = j'.task.kind ∧ i = i')

def Awaits (j : Job) (b : Board) : Prop :=
  ∀ i, j.slot = some i → b.slot? j.task.kind i = some .pending

def Broken (j : Job) (b : Board) : Prop :=
  ∀ i, j.slot = some i → b.slot? j.task.kind i = some .broken

theorem Apart.symm (h : Apart j j') : Apart j' j := by
  intro i i' hi hi' hk
  exact h i' i hi' hi ⟨hk.1.symm, hk.2.symm⟩

theorem SameSlot.refl (j : Job) (b : Board) : j.SameSlot b b := fun _ _ => rfl

theorem Awaits.of_same (h : j.Awaits b) (same : j.SameSlot b b') : j.Awaits b' := by
  intro i hi
  rw [same i hi]
  exact h i hi

theorem Broken.of_same (h : j.Broken b) (same : j.SameSlot b b') : j.Broken b' := by
  intro i hi
  rw [same i hi]
  exact h i hi

theorem drop_same (h : Apart j' j) : j'.SameSlot b (j.drop b) := by
  intro i' hi'
  unfold drop
  cases hi : j.slot with
  | none => rfl
  | some i => exact Board.slot?_put_ne (h i' i hi' hi) _

theorem drop_broken (h : j.Awaits b) : j.Broken (j.drop b) := by
  intro i hi
  unfold drop
  rw [hi]
  have hs := h i hi
  simp only [Board.abandon, hs, Option.getD_some, Slot.abandon]
  exact Board.slot?_put_same hs _

theorem isSome_drop (j : Job) (b : Board) (k : Kind) (i : Nat) :
    ((j.drop b).slot? k i).isSome = (b.slot? k i).isSome := by
  unfold drop
  split
  · rfl
  · exact Board.isSome_slot?_put _

theorem settle_same {r : Except PoolError j.task.kind.Payload} (h : Apart j' j) :
    j'.SameSlot b (j.settle r b) := by
  intro i' hi'
  unfold settle
  split
  · rfl
  · rename_i i a hi
    exact Board.slot?_put_ne (h i' i hi' hi) _
  · rename_i i e hi
    exact Board.slot?_put_ne (h i' i hi' hi) _

theorem isSome_settle (r : Except PoolError j.task.kind.Payload) (b : Board) (k : Kind) (i : Nat) :
    ((j.settle r b).slot? k i).isSome = (b.slot? k i).isSome := by
  unfold settle
  split
  · rfl
  · exact Board.isSome_slot?_put _
  · exact Board.isSome_slot?_put _

theorem settle_ready (h : j.Awaits b) {i : Nat} (hi : j.slot = some i)
    {r : Except PoolError j.task.kind.Payload} {a : j.task.kind.Payload} (hr : r = .ok a) :
    (j.settle r b).slot? j.task.kind i = some (.ready a) := by
  have hs := h i hi
  simp only [settle, hi, hr, Board.set, hs, Option.getD_some, Slot.set]
  exact Board.slot?_put_same hs _

theorem settle_broken (h : j.Awaits b) {i : Nat} (hi : j.slot = some i)
    {r : Except PoolError j.task.kind.Payload} {e : PoolError} (hr : r = .error e) :
    (j.settle r b).slot? j.task.kind i = some .broken := by
  have hs := h i hi
  simp only [settle, hi, hr, Board.abandon, hs, Option.getD_some, Slot.abandon]
  exact Board.slot?_put_same hs _

/-- Only what is ready can be taken. -/
theorem take_same (k : Kind) (i : Nat)
    (h : ∀ i' a, j.slot = some i' → b.slot? j.task.kind i' ≠ some (.ready a)) :
    j.SameSlot b (b.take k i).2 := by
  intro i' hi'
  rw [Board.slot?_take]
  cases hs : b.slot? j.task.kind i' with
  | none => rfl
  | some s =>
    cases s with
    | ready a => exact absurd hs (h i' a hi')
    | pending | taken | broken => simp [Slot.take]

end Job

/-- The slot of a job that ran has its result, unless a caller took it from there; after a fatal
error it is broken. -/
structure Ran.Settled (x : Ran) (g : Log) (b : Board) : Prop where
  fatal : ∀ e, x.result = .error e → e.isFatal = true
  ready : ∀ i a, x.job.slot = some i → x.result = .ok a →
    b.slot? x.job.task.kind i = some (.ready a) ∨
      b.slot? x.job.task.kind i = some .taken ∧ ⟨x.job.task.kind, i, a⟩ ∈ g.given
  broken : ∀ i e, x.job.slot = some i → x.result = .error e →
    b.slot? x.job.task.kind i = some .broken

theorem Ran.Settled.of_same {x : Ran} {g g' : Log} {b b' : Board} (h : x.Settled g b)
    (same : x.job.SameSlot b b') (given : g'.given = g.given) : x.Settled g' b' where
  fatal := h.fatal
  ready i a hi ha := by
    rw [same i hi, given]
    exact h.ready i a hi ha
  broken i e hi he := by
    rw [same i hi]
    exact h.broken i e hi he

/-- Accepted jobs ran in their order, were dropped, or are still ahead; apart from those that ran
with a result, only the ones ahead have a slot that is not broken. -/
structure Ledger (g : Log) (dropped ahead : List Job) (b : Board) : Prop where
  order : g.accepted = g.ran.map Ran.job ++ (dropped ++ ahead)
  apart : g.jobs.Pairwise Job.Apart
  owned : ∀ k i, (b.slot? k i).isSome = true → ∃ j ∈ g.jobs, j.task.kind = k ∧ j.slot = some i
  ran : ∀ x ∈ g.ran, x.Settled g b
  dropped : ∀ j ∈ dropped, j.Broken b
  ahead : ∀ j ∈ ahead, j.Awaits b
  refused : ∀ j ∈ g.refused, j.Broken b

/-- The board `b'` is `b` with the slot of a new job, if it has one. -/
structure Admits (js : List Job) (b : Board) (j : Job) (b' : Board) : Prop where
  same : ∀ j' ∈ js, j'.SameSlot b b'
  apart : ∀ j' ∈ js, Job.Apart j' j
  owned : ∀ k i, (b'.slot? k i).isSome = true →
    (b.slot? k i).isSome = true ∨ j.task.kind = k ∧ j.slot = some i
  awaits : j.Awaits b'

theorem admits_unawaited (js : List Job) (b : Board) (t : Task) : Admits js b ⟨t, none⟩ b where
  same j' _ := .refl j' b
  apart _ _ := by
    intro i i' _ hi'
    cases hi'
  owned _ _ h := .inl h
  awaits := by
    intro i hi
    cases hi

namespace Ledger

variable {g : Log} {dropped ahead : List Job} {b b' : Board} {j : Job}

/-- A job in the books has its slot on the board. -/
theorem isSome_slot? (h : Ledger g dropped ahead b) (hj : j ∈ g.jobs) {i : Nat}
    (hi : j.slot = some i) : (b.slot? j.task.kind i).isSome = true := by
  have hcases : (∃ x ∈ g.ran, x.job = j) ∨ j ∈ dropped ∨ j ∈ ahead ∨ j ∈ g.refused := by
    rw [Log.jobs, h.order] at hj
    simpa [or_assoc] using hj
  rcases hcases with ⟨x, hx, rfl⟩ | hd | ha | hr
  · have settled := h.ran x hx
    cases hresult : x.result with
    | error e => rw [settled.broken i e hi hresult]; rfl
    | ok a =>
      rcases settled.ready i a hi hresult with hs | ⟨hs, _⟩
      · rw [hs]; rfl
      · rw [hs]; rfl
  · rw [h.dropped j hd i hi]; rfl
  · rw [h.ahead j ha i hi]; rfl
  · rw [h.refused j hr i hi]; rfl

theorem admits_awaited (h : Ledger g dropped ahead b) (t : Task) :
    Admits g.jobs b ⟨t, some (b.slots t.kind).length⟩ (b.add t.kind .pending).2 := by
  have fresh : ∀ j ∈ g.jobs, ∀ i, j.slot = some i →
      ¬(j.task.kind = t.kind ∧ i = (b.slots t.kind).length) := by
    rintro j hj i hi ⟨hk, rfl⟩
    have hsome := h.isSome_slot? hj hi
    rw [hk, Board.slot?, List.getElem?_eq_none (Nat.le_refl _)] at hsome
    cases hsome
  refine ⟨?_, ?_, ?_, ?_⟩
  · intro j hj i hi
    exact Board.slot?_add_ne (fresh j hj i hi) _
  · intro j hj i i' hi hi'
    cases hi'
    exact fresh j hj i hi
  · intro k i hsome
    by_cases hki : k = t.kind ∧ i = (b.slots t.kind).length
    · obtain ⟨rfl, rfl⟩ := hki
      exact .inr ⟨rfl, rfl⟩
    · rw [Board.slot?_add_ne hki] at hsome
      exact .inl hsome
  · intro i hi
    cases hi
    exact Board.slot?_add_new b t.kind _

theorem mem_of_ran (h : Ledger g dropped ahead b) {x : Ran} (hx : x ∈ g.ran) : x.job ∈ g.jobs := by
  rw [Log.jobs, h.order]
  simp only [List.mem_append]
  exact .inl (.inl (List.mem_map_of_mem hx))

theorem mem_of_dropped (h : Ledger g dropped ahead b) (hj : j ∈ dropped) : j ∈ g.jobs := by
  rw [Log.jobs, h.order]
  simp [hj]

theorem mem_of_ahead (h : Ledger g dropped ahead b) (hj : j ∈ ahead) : j ∈ g.jobs := by
  rw [Log.jobs, h.order]
  simp [hj]

theorem mem_of_refused (hj : j ∈ g.refused) : j ∈ g.jobs := List.mem_append_right _ hj

theorem offered_apart (h : Ledger g dropped ahead b) (new : Admits g.jobs b j b')
    (refuses : Bool) : (g.offered refuses [j]).jobs.Pairwise Job.Apart := by
  rw [(g.jobs_offered refuses j).pairwise_iff Job.Apart.symm, List.pairwise_append]
  refine ⟨h.apart, List.pairwise_singleton _ _, ?_⟩
  intro j' hj' j'' hj''
  rw [List.mem_singleton.1 hj'']
  exact new.apart j' hj'

theorem offered_owned (h : Ledger g dropped ahead b) (new : Admits g.jobs b j b')
    (refuses : Bool) (k : Kind) (i : Nat) (hsome : (b'.slot? k i).isSome = true) :
    ∃ j' ∈ (g.offered refuses [j]).jobs, j'.task.kind = k ∧ j'.slot = some i := by
  have hperm := g.jobs_offered refuses j
  rcases new.owned k i hsome with hold | hnew
  · obtain ⟨j', hj', hplace⟩ := h.owned k i hold
    exact ⟨j', hperm.mem_iff.2 (List.mem_append_left _ hj'), hplace⟩
  · exact ⟨j, hperm.mem_iff.2 (by simp), hnew⟩

theorem accept (h : Ledger g dropped ahead b) (new : Admits g.jobs b j b') :
    Ledger (g.offered false [j]) dropped (ahead ++ [j]) b' where
  order := by
    rw [(g.ran_offered false [j]).1, ← List.append_assoc dropped, ← List.append_assoc, ← h.order]
    rfl
  apart := h.offered_apart new false
  owned := h.offered_owned new false
  ran x hx := by
    rw [(g.ran_offered false [j]).1] at hx
    exact (h.ran x hx).of_same (new.same _ (h.mem_of_ran hx)) (g.ran_offered false [j]).2
  dropped j' hj' := (h.dropped j' hj').of_same (new.same j' (h.mem_of_dropped hj'))
  ahead j' hj' := by
    rcases List.mem_append.1 hj' with hj' | hj'
    · exact (h.ahead j' hj').of_same (new.same j' (h.mem_of_ahead hj'))
    · rw [List.mem_singleton.1 hj']
      exact new.awaits
  refused j' hj' := (h.refused j' hj').of_same (new.same j' (mem_of_refused hj'))

theorem refuse (h : Ledger g dropped ahead b) (new : Admits g.jobs b j b') :
    Ledger (g.offered true [j]) dropped ahead (j.drop b') := by
  have same : ∀ j' ∈ g.jobs, j'.SameSlot b (j.drop b') := by
    intro j' hj' i hi
    rw [Job.drop_same (new.apart j' hj') i hi]
    exact new.same j' hj' i hi
  refine ⟨?_, h.offered_apart new true, ?_, ?_, ?_, ?_, ?_⟩
  · rw [(g.ran_offered true [j]).1]
    exact h.order
  · intro k i hsome
    rw [Job.isSome_drop] at hsome
    exact h.offered_owned new true k i hsome
  · intro x hx
    rw [(g.ran_offered true [j]).1] at hx
    exact (h.ran x hx).of_same (same _ (h.mem_of_ran hx)) (g.ran_offered true [j]).2
  · intro j' hj'
    exact (h.dropped j' hj').of_same (same j' (h.mem_of_dropped hj'))
  · intro j' hj'
    exact (h.ahead j' hj').of_same (same j' (h.mem_of_ahead hj'))
  · intro j' hj'
    rcases List.mem_append.1 hj' with hj' | hj'
    · exact (h.refused j' hj').of_same (same j' (mem_of_refused hj'))
    · rw [List.mem_singleton.1 hj']
      exact Job.drop_broken new.awaits

/-- The job at the head of the line shares its slot with nobody. -/
theorem apart_head (h : Ledger g dropped (j :: ahead) b) :
    (∀ x ∈ g.ran, Job.Apart x.job j) ∧ (∀ j' ∈ dropped, Job.Apart j' j) ∧
      (∀ j' ∈ ahead, Job.Apart j' j) ∧ ∀ j' ∈ g.refused, Job.Apart j' j := by
  have hp := h.apart
  rw [Log.jobs, h.order] at hp
  simp only [List.pairwise_append, List.pairwise_cons, List.mem_append, List.mem_cons] at hp
  obtain ⟨⟨_, ⟨_, ⟨hahead, _⟩, hdropped⟩, hran⟩, _, hrefused⟩ := hp
  refine ⟨?_, ?_, ?_, ?_⟩
  · intro x hx
    exact hran x.job (List.mem_map_of_mem hx) j (.inr (.inl rfl))
  · intro j' hj'
    exact hdropped j' hj' j (.inl rfl)
  · intro j' hj'
    exact (hahead j' hj').symm
  · intro j' hj'
    exact (hrefused j (.inr (.inr (.inl rfl))) j' hj').symm

/-- The head of the line runs, as long as nothing was dropped. -/
theorem finish (h : Ledger g [] (j :: ahead) b) (r : Except PoolError j.task.kind.Payload)
    (fatal : ∀ e, r = .error e → e.isFatal = true) :
    Ledger (g.dealt (.worker ⟨j, r⟩)) [] ahead (j.settle r b) := by
  obtain ⟨hran, _, hahead, hrefused⟩ := h.apart_head
  have awaits : j.Awaits b := h.ahead j (by simp)
  refine ⟨?_, h.apart, ?_, ?_, ?_, ?_, ?_⟩
  · rw [Log.ran_worker, List.map_append]
    simpa [Log.dealt] using h.order
  · intro k i hsome
    rw [Job.isSome_settle] at hsome
    exact h.owned k i hsome
  · intro x hx
    rw [Log.ran_worker] at hx
    rcases List.mem_append.1 hx with hx | hx
    · exact (h.ran x hx).of_same (Job.settle_same (hran x hx)) rfl
    · rw [List.mem_singleton.1 hx]
      refine ⟨fatal, ?_, ?_⟩
      · intro i a hi ha
        exact .inl (Job.settle_ready awaits hi ha)
      · intro i e hi he
        exact Job.settle_broken awaits hi he
  · intro j' hj'
    cases hj'
  · intro j' hj'
    exact (h.ahead j' (by simp [hj'])).of_same (Job.settle_same (hahead j' hj'))
  · intro j' hj'
    exact (h.refused j' hj').of_same (Job.settle_same (hrefused j' hj'))

theorem lose (h : Ledger g dropped (j :: ahead) b) :
    Ledger g (dropped ++ [j]) ahead (j.drop b) := by
  obtain ⟨hran, hdropped, hahead, hrefused⟩ := h.apart_head
  refine ⟨by simpa using h.order, h.apart, ?_, ?_, ?_, ?_, ?_⟩
  · intro k i hsome
    rw [Job.isSome_drop] at hsome
    exact h.owned k i hsome
  · intro x hx
    exact (h.ran x hx).of_same (Job.drop_same (hran x hx)) rfl
  · intro j' hj'
    rcases List.mem_append.1 hj' with hj' | hj'
    · exact (h.dropped j' hj').of_same (Job.drop_same (hdropped j' hj'))
    · rw [List.mem_singleton.1 hj']
      exact Job.drop_broken (h.ahead j (by simp))
  · intro j' hj'
    exact (h.ahead j' (by simp [hj'])).of_same (Job.drop_same (hahead j' hj'))
  · intro j' hj'
    exact (h.refused j' hj').of_same (Job.drop_same (hrefused j' hj'))

theorem lose_all (h : Ledger g dropped ahead b) :
    Ledger g (dropped ++ ahead) [] (ahead.foldl (fun b j => j.drop b) b) := by
  induction ahead generalizing dropped b with
  | nil => simpa using h
  | cons j ahead ih =>
    have hrest := ih h.lose
    rwa [List.append_assoc] at hrest

theorem dealt (h : Ledger g dropped ahead b) {d : Dealing} (hd : d.ran? = none) :
    Ledger (g.dealt d) dropped ahead b where
  order := by
    rw [g.ran_dealt hd]
    exact h.order
  apart := h.apart
  owned := h.owned
  ran x hx := by
    rw [g.ran_dealt hd] at hx
    exact (h.ran x hx).of_same (.refl _ b) rfl
  dropped := h.dropped
  ahead := h.ahead
  refused := h.refused

theorem settled_take {x : Ran} (h : x.Settled g b) (k : Kind) (i : Nat) :
    x.Settled (g.took k i (b.take k i).1) (b.take k i).2 := by
  obtain ⟨given, hg, hgiven⟩ := g.took_eq k i (b.take k i).1
  refine ⟨h.fatal, ?_, ?_⟩
  · intro i' a hi' ha
    rw [Board.slot?_take]
    rcases h.ready i' a hi' ha with hs | ⟨hs, hmem⟩
    · -- a result that is taken is the one that the job left there
      by_cases hplace : x.job.task.kind = k ∧ i' = i
      · obtain ⟨rfl, rfl⟩ := hplace
        refine .inr ⟨by simp [hs, Slot.take], ?_⟩
        simp [Board.take, hs, Slot.take, Log.took]
      · exact .inl (by simp [hs, hplace])
    · refine .inr ⟨by simp [hs, Slot.take], ?_⟩
      rw [hg]
      exact hgiven _ hmem
  · intro i' e hi' he
    rw [Board.slot?_take, h.broken i' e hi' he]
    simp [Slot.take]

theorem take (h : Ledger g dropped ahead b) (k : Kind) (i : Nat) :
    Ledger (g.took k i (b.take k i).1) dropped ahead (b.take k i).2 := by
  obtain ⟨given, hg, _⟩ := g.took_eq k i (b.take k i).1
  have hsettled := fun x hx => settled_take (h.ran x hx) k i
  rw [hg] at hsettled ⊢
  refine ⟨h.order, h.apart, ?_, hsettled, ?_, ?_, ?_⟩
  · intro k' i' hsome
    rw [Board.slot?_take, Option.isSome_map] at hsome
    exact h.owned k' i' hsome
  · intro j hj
    apply (h.dropped j hj).of_same
    apply Job.take_same
    intro i' a hi' hs
    rw [h.dropped j hj i' hi'] at hs
    cases hs
  · intro j hj
    apply (h.ahead j hj).of_same
    apply Job.take_same
    intro i' a hi' hs
    rw [h.ahead j hj i' hi'] at hs
    cases hs
  · intro j hj
    apply (h.refused j hj).of_same
    apply Job.take_same
    intro i' a hi' hs
    rw [h.refused j hj i' hi'] at hs
    cases hs

end Ledger
end QueryPool
