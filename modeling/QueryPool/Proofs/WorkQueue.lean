import Mathlib.Data.List.Basic
import QueryPool.WorkQueue

namespace QueryPool.WorkQueue

variable {α : Type} {select : Select} {q q' : WorkQueue α} {p p' : Progress α} {a : α} {i n : Nat}

/-- What channels promise: an arm is chosen only if it is ready, and a consumer is blocked only while
neither is. Which of two ready arms is chosen is left open. -/
structure Select.Lawful (select : Select) : Prop where
  items : ∀ n item ended, select n item ended = some .items → item = true
  shutdown : ∀ n item ended, select n item ended = some .shutdown → ended = true
  blocked : ∀ n item ended, select n item ended = none → item = false ∧ ended = false

/-- What one step of a call can do. -/
inductive Proceeds (q : WorkQueue α) : Progress α → Progress α → WorkQueue α → Prop where
  | sent (a : α) : Proceeds q (.sending a) (.finished .queued) (q.send a)
  | took {a : α} {items : List α} (h : q.items = a :: items) :
      Proceeds q .taking (.finished (.popped (some a))) { q with items }
  | found_nothing (h : q.items = []) : Proceeds q .taking (.finished (.popped none)) q
  | blocked (h : q.items = []) (hc : q.cancelled = false) : Proceeds q .waiting .waiting q
  | woken (hc : q.cancelled = true) : Proceeds q .waiting (.finished (.popped none)) q
  | received {a : α} {items : List α} (h : q.items = a :: items) :
      Proceeds q .waiting (.holding a) { q with items }
  | kept (a : α) (hc : q.cancelled = false) :
      Proceeds q (.holding a) (.finished (.popped (some a))) q
  | dropped (a : α) (hc : q.cancelled = true) : Proceeds q (.holding a) (.finished (.popped none)) q
  | finished (r : Answer α) : Proceeds q (.finished r) (.finished r) q

theorem receive_nil (h : q.items = []) : q.receive = (none, q) := by
  unfold receive
  rw [h]

theorem receive_cons {items : List α} (h : q.items = a :: items) :
    q.receive = (some a, { q with items }) := by
  unfold receive
  rw [h]

theorem proceed_proceeds (lawful : select.Lawful) (n : Nat) (q : WorkQueue α) (p : Progress α) :
    Proceeds q p (proceed select n q p).1 (proceed select n q p).2 := by
  cases p with
  | sending a => exact .sent a
  | taking =>
    cases hi : q.items with
    | nil =>
      simp only [proceed, receive_nil hi]
      exact .found_nothing hi
    | cons a items =>
      simp only [proceed, receive_cons hi]
      exact .took hi
  | waiting =>
    cases hs : select n (!q.items.isEmpty) q.cancelled with
    | none =>
      simp only [proceed, hs]
      obtain ⟨item, ended⟩ := lawful.blocked _ _ _ hs
      exact .blocked (by simpa using item) ended
    | some arm =>
      cases arm with
      | shutdown =>
        simp only [proceed, hs]
        exact .woken (lawful.shutdown _ _ _ hs)
      | items =>
        have item := lawful.items _ _ _ hs
        cases hi : q.items with
        | nil => simp [hi] at item
        | cons a items =>
          simp only [proceed, hs, receive_cons hi]
          exact .received hi
  | holding a =>
    cases hc : q.cancelled with
    | false =>
      simp only [proceed, hc]
      exact .kept a hc
    | true =>
      simp only [proceed, hc]
      exact .dropped a hc
  | finished r => exact .finished r

theorem Proceeds.cancelled (h : Proceeds q p p' q') : q'.cancelled = q.cancelled := by
  cases h <;> rfl

namespace Progress

/-- What the next step of a call puts into the queue. -/
def sent? : Progress α → Option α
  | sending a => some a
  | taking | waiting | holding _ | finished _ => none

/-- What a step took out of the queue. -/
def took? : Progress α → Progress α → Option α
  | taking, finished (.popped r) => r
  | waiting, holding a => some a
  | _, _ => none

/-- A call that has taken its item, with what becomes of it. -/
def Has (a : α) (ended : Bool) (p : Progress α) : Prop :=
  p = holding a ∨ p = finished (.popped (some a)) ∨ ended = true ∧ p = finished (.popped none)

end Progress

namespace Crowd

/-- What a turn puts into the queue, with the call that does. -/
def sends (s : Crowd α) : Turn α → List (Nat × α)
  | .call _ => []
  | .go i _ => (s.calls[i]?.bind Progress.sent?).toList.map fun a => (i, a)

/-- What a turn takes out of the queue, with the call that has it now. -/
def takes (select : Select) (s : Crowd α) : Turn α → List (Nat × α)
  | .call _ => []
  | .go i n =>
    match s.calls[i]?, (s.turn select (.go i n)).calls[i]? with
    | some p, some p' => (p.took? p').toList.map fun a => (i, a)
    | _, _ => []

end Crowd

/-- The calls on a queue, with all items that went in and out so far. -/
structure History (α : Type) extends Crowd α where
  sent : List (Nat × α) := []
  taken : List (Nat × α) := []

variable {s : History α}

namespace Proceeds

/-- What a step takes it takes from the front, and what it puts it puts at the back. -/
theorem flow (h : Proceeds q p p' q') :
    (p.took? p').toList ++ q'.items = q.items ++ p.sent?.toList := by
  cases h with
  | sent => rfl
  | took h | received h => simp [Progress.took?, Progress.sent?, h]
  | found_nothing | blocked | woken | kept | dropped | finished =>
    simp [Progress.took?, Progress.sent?]

/-- A call takes nothing once it has its item. -/
theorem took_first {b : α} {ended : Bool} (h : Proceeds q p p' q') (ht : p.took? p' = some a) :
    ¬p.Has b ended := by
  cases h with
  | took | found_nothing | blocked | woken | received => simp [Progress.Has]
  | sent | kept | dropped | finished => cases ht

theorem took_has (h : Proceeds q p p' q') (ht : p.took? p' = some a) : p'.Has a q.cancelled := by
  cases h with
  | took =>
    cases ht
    exact .inr (.inl rfl)
  | received =>
    cases ht
    exact .inl rfl
  | sent | found_nothing | blocked | woken | kept | dropped | finished => cases ht

theorem has (h : Proceeds q p p' q') (hp : p.Has a q.cancelled) : p'.Has a q.cancelled := by
  rcases hp with rfl | rfl | ⟨hc, rfl⟩
  · cases h with
    | kept => exact .inr (.inl rfl)
    | dropped _ hc => exact .inr (.inr ⟨hc, rfl⟩)
  · cases h with
    | finished => exact .inr (.inl rfl)
  · cases h with
    | finished => exact .inr (.inr ⟨hc, rfl⟩)

/-- What a call has now it had before, or took with this step. -/
theorem had (h : Proceeds q p p' q') (hp : p' = .holding a ∨ p' = .finished (.popped (some a))) :
    (p = .holding a ∨ p = .finished (.popped (some a))) ∨ p.took? p' = some a := by
  rcases hp with rfl | rfl
  · cases h with
    | received => exact .inr rfl
  · cases h with
    | took => exact .inr rfl
    | kept => exact .inl (.inl rfl)
    | finished => exact .inl (.inr rfl)

end Proceeds

theorem Progress.Has.later {ended ended' : Bool} (h : p.Has a ended)
    (later : ended = true → ended' = true) : p.Has a ended' :=
  h.imp id (.imp id (.imp later id))

theorem enter_items (q : WorkQueue α) (c : Call α) : (q.enter c).2.items = q.items := by
  cases c <;> rfl

theorem enter_cancelled {q : WorkQueue α} (c : Call α) (hc : q.cancelled = true) :
    (q.enter c).2.cancelled = true := by
  cases c with
  | push | tryPop | waitAndPop => exact hc
  | cancel => rfl

/-- A call does not begin with an item taken. -/
theorem enter_had_nothing (q : WorkQueue α) (c : Call α) :
    ¬((q.enter c).1 = .holding a ∨ (q.enter c).1 = .finished (.popped (some a))) := by
  cases c <;> cases hc : q.cancelled <;> simp [enter, hc]

theorem Crowd.turn_absent {s : Crowd α} (hi : s.calls[i]? = none) :
    s.turn select (.go i n) = s := by
  simp only [Crowd.turn, hi]

theorem Crowd.turn_go (lawful : select.Lawful) {s : Crowd α} (hi : s.calls[i]? = some p) (n : Nat) :
    ∃ p' q', Proceeds s.queue p p' q' ∧ s.turn select (.go i n) = ⟨q', s.calls.set i p'⟩ := by
  refine ⟨_, _, proceed_proceeds lawful n s.queue p, ?_⟩
  simp only [Crowd.turn, hi]

namespace History

def turn (select : Select) (s : History α) (t : Turn α) : History α where
  toCrowd := s.toCrowd.turn select t
  sent := s.sent ++ s.toCrowd.sends t
  taken := s.taken ++ s.toCrowd.takes select t

def run (select : Select) (s : History α) (ts : List (Turn α)) : History α :=
  ts.foldl (turn select) s

theorem turn_call (select : Select) (s : History α) (c : Call α) : s.turn select (.call c) =
    { s with queue := (s.queue.enter c).2, calls := s.calls ++ [(s.queue.enter c).1] } := by
  simp [turn, Crowd.turn, Crowd.sends, Crowd.takes]

theorem turn_absent (hi : s.calls[i]? = none) : s.turn select (.go i n) = s := by
  simp [turn, Crowd.turn_absent hi, Crowd.sends, Crowd.takes, hi]

theorem turn_go (lawful : select.Lawful) (hi : s.calls[i]? = some p) (n : Nat) :
    ∃ p' q', Proceeds s.queue p p' q' ∧ s.turn select (.go i n) =
      { queue := q', calls := s.calls.set i p'
        sent := s.sent ++ p.sent?.toList.map fun a => (i, a)
        taken := s.taken ++ (p.took? p').toList.map fun a => (i, a) } := by
  obtain ⟨p', q', step, hturn⟩ := Crowd.turn_go lawful hi n
  have there : (s.calls.set i p')[i]? = some p' :=
    List.getElem?_set_self (List.getElem?_eq_some_iff.1 hi).1
  refine ⟨p', q', step, ?_⟩
  simp only [turn, Crowd.sends, Crowd.takes, hturn, hi, there, Option.bind_some]

/-- The items that went in went out in their order or are still there, and each call that took one
has it or has dropped it after the end. -/
structure Sound (s : History α) : Prop where
  fifo : s.taken.map Prod.snd ++ s.queue.items = s.sent.map Prod.snd
  once : (s.taken.map Prod.fst).Nodup
  kept : ∀ i a, (i, a) ∈ s.taken → ∃ p, s.calls[i]? = some p ∧ p.Has a s.queue.cancelled
  had : ∀ i p a, s.calls[i]? = some p → p = .holding a ∨ p = .finished (.popped (some a)) →
    (i, a) ∈ s.taken

namespace Sound

theorem call (h : s.Sound) (c : Call α) : (s.turn select (.call c)).Sound := by
  rw [turn_call]
  refine ⟨?_, h.once, ?_, ?_⟩
  · simpa only [enter_items] using h.fifo
  · intro i a hi
    obtain ⟨p, hp, has⟩ := h.kept i a hi
    refine ⟨p, ?_, has.later (enter_cancelled c)⟩
    rw [List.getElem?_append_left (List.getElem?_eq_some_iff.1 hp).1]
    exact hp
  · intro i p a hi hp
    rcases Nat.lt_or_ge i s.calls.length with hlt | hge
    · rw [List.getElem?_append_left hlt] at hi
      exact h.had i p a hi hp
    · rw [List.getElem?_append_right hge] at hi
      obtain rfl := List.mem_singleton.1 (List.mem_of_getElem? hi)
      exact absurd hp (enter_had_nothing s.queue c)

theorem go (h : s.Sound) (lawful : select.Lawful) (i n : Nat) :
    (s.turn select (.go i n)).Sound := by
  cases hi : s.calls[i]? with
  | none =>
    rw [turn_absent hi]
    exact h
  | some p =>
    obtain ⟨p', q', step, hturn⟩ := turn_go lawful hi n
    have here : i < s.calls.length := (List.getElem?_eq_some_iff.1 hi).1
    have ended := step.cancelled
    rw [hturn]
    refine ⟨?_, ?_, ?_, ?_⟩
    · calc (s.taken ++ (p.took? p').toList.map fun a => (i, a)).map Prod.snd ++ q'.items
          = s.taken.map Prod.snd ++ ((p.took? p').toList ++ q'.items) := by
            simp [Function.comp_def]
        _ = s.taken.map Prod.snd ++ s.queue.items ++ p.sent?.toList := by
          rw [step.flow, List.append_assoc]
        _ = (s.sent ++ p.sent?.toList.map fun a => (i, a)).map Prod.snd := by
          rw [h.fifo]
          simp [Function.comp_def]
    · cases ht : p.took? p' with
      | none => simpa using h.once
      | some a =>
        have fresh : i ∉ s.taken.map Prod.fst := by
          intro hmem
          obtain ⟨⟨_, b⟩, hb, rfl⟩ := List.mem_map.1 hmem
          obtain ⟨p₀, hp₀, has⟩ := h.kept _ b hb
          rw [hi] at hp₀
          cases hp₀
          exact step.took_first ht has
        have both : (s.taken.map Prod.fst ++ [i]).Nodup :=
          List.nodup_append.2 ⟨h.once, by simp, by
            intro j hj k hk hjk
            rw [List.mem_singleton.1 hk] at hjk
            exact fresh (hjk ▸ hj)⟩
        simpa using both
    · intro j b hj
      rcases List.mem_append.1 hj with hj | hj
      · obtain ⟨p₀, hp₀, has⟩ := h.kept j b hj
        by_cases hij : i = j
        · subst hij
          rw [hi] at hp₀
          cases hp₀
          exact ⟨p', List.getElem?_set_self here, by rw [ended]; exact step.has has⟩
        · exact ⟨p₀, by rw [List.getElem?_set_ne hij]; exact hp₀, by rw [ended]; exact has⟩
      · obtain ⟨a, ha, heq⟩ := List.mem_map.1 hj
        cases heq
        exact ⟨p', List.getElem?_set_self here, by
          rw [ended]
          exact step.took_has (by simpa using ha)⟩
    · intro j p₀ b hj hp₀
      by_cases hij : i = j
      · subst hij
        rw [List.getElem?_set_self here] at hj
        cases hj
        rcases step.had hp₀ with before | ht
        · exact List.mem_append_left _ (h.had i p b hi before)
        · exact List.mem_append_right _ (by simp [ht])
      · rw [List.getElem?_set_ne hij] at hj
        exact List.mem_append_left _ (h.had j p₀ b hj hp₀)

theorem turn (h : s.Sound) (lawful : select.Lawful) (t : Turn α) : (s.turn select t).Sound := by
  cases t with
  | call c => exact h.call c
  | go i n => exact h.go lawful i n

theorem run (h : s.Sound) (lawful : select.Lawful) (ts : List (Turn α)) :
    (s.run select ts).Sound := by
  induction ts generalizing s with
  | nil => exact h
  | cons t ts ih => exact ih (h.turn lawful t)

theorem new : ({} : History α).Sound := ⟨rfl, .nil, nofun, by simp⟩

end Sound

theorem run_cons (select : Select) (s : History α) (t : Turn α) (ts : List (Turn α)) :
    s.run select (t :: ts) = (s.turn select t).run select ts := rfl

section Steps

variable {items : List α} {r : Answer α}

theorem turn_received (lawful : select.Lawful) (hi : s.calls[i]? = some .waiting)
    (h : s.queue.items = a :: items) (hc : s.queue.cancelled = false) (n : Nat) :
    s.turn select (.go i n) =
    { s with queue := { s.queue with items }, calls := s.calls.set i (.holding a)
             taken := s.taken ++ [(i, a)] } := by
  obtain ⟨p', q', step, hturn⟩ := turn_go lawful hi n
  cases step with
  | received h' =>
    obtain ⟨rfl, rfl⟩ := List.cons_eq_cons.1 (h.symm.trans h')
    simpa [Progress.sent?, Progress.took?] using hturn
  | blocked h' => simp [h] at h'
  | woken h' => simp [hc] at h'

theorem turn_kept (lawful : select.Lawful) (hi : s.calls[i]? = some (.holding a))
    (hc : s.queue.cancelled = false) (n : Nat) : s.turn select (.go i n) =
    { s with calls := s.calls.set i (.finished (.popped (some a))) } := by
  obtain ⟨p', q', step, hturn⟩ := turn_go lawful hi n
  cases step with
  | kept => simpa [Progress.sent?, Progress.took?] using hturn
  | dropped _ h' => simp [hc] at h'

theorem set_same (hi : s.calls[i]? = some p) : s.calls.set i p = s.calls := by
  obtain ⟨here, rfl⟩ := List.getElem?_eq_some_iff.1 hi
  exact List.set_getElem_self here

theorem turn_finished (lawful : select.Lawful) (hi : s.calls[i]? = some (.finished r)) (n : Nat) :
    s.turn select (.go i n) = s := by
  obtain ⟨p', q', step, hturn⟩ := turn_go lawful hi n
  cases step with
  | finished => simpa [Progress.sent?, Progress.took?, set_same hi] using hturn

theorem turn_blocked (lawful : select.Lawful) (hi : s.calls[i]? = some .waiting)
    (h : s.queue.items = []) (hc : s.queue.cancelled = false) (n : Nat) :
    s.turn select (.go i n) = s := by
  obtain ⟨p', q', step, hturn⟩ := turn_go lawful hi n
  cases step with
  | blocked => simpa [Progress.sent?, Progress.took?, set_same hi] using hturn
  | woken h' => simp [hc] at h'
  | received h' => simp [h] at h'

end Steps

/-- The history after a call and so many steps of its own. -/
def alone (select : Select) (s : History α) (c : Call α) (chances : List Nat) : History α :=
  (s.turn select (.call c)).run select (chances.map fun n => .go s.calls.length n)

/-- The history after a push that is over. -/
def pushed (s : History α) (a : α) : History α where
  queue := s.queue.send a
  calls := s.calls ++ [.finished .queued]
  sent := s.sent ++ [(s.calls.length, a)]
  taken := s.taken

/-- Between two calls: what was begun is over, or waits for an item. -/
def Quiet (s : History α) : Prop :=
  ∀ p ∈ s.calls, (∃ r, p = .finished r) ∨ p = .waiting ∧ s.queue.items = []

/-- The history after a push to a blocked consumer, the `i`-th call, which stands at `p` now. -/
def handed (s : History α) (a : α) (i : Nat) (p : Progress α) : History α where
  queue := s.queue
  calls := (s.pushed a).calls.set i p
  sent := (s.pushed a).sent
  taken := s.taken ++ [(i, a)]

/-- What can become of an item that is put into `s`: it is still in the queue, or one of those that
waited has received it or gone away with it. The others wait as before. -/
inductive Woken (s : History α) (a : α) : History α → Prop where
  | queued : Woken s a (s.pushed a)
  | received (i : Nat) (h : s.calls[i]? = some .waiting) : Woken s a (s.handed a i (.holding a))
  | returned (i : Nat) (h : s.calls[i]? = some .waiting) :
      Woken s a (s.handed a i (.finished (.popped (some a))))

theorem Quiet.pushed (quiet : s.Quiet) {j : Nat} (hj : (s.pushed a).calls[j]? = some p) :
    (∃ r, p = .finished r) ∨ p = .waiting ∧ s.calls[j]? = some .waiting := by
  rcases Nat.lt_or_ge j s.calls.length with hlt | hge
  · rw [History.pushed, List.getElem?_append_left hlt] at hj
    rcases quiet p (List.mem_of_getElem? hj) with finished | ⟨rfl, -⟩
    · exact .inl finished
    · exact .inr ⟨rfl, hj⟩
  · rw [History.pushed, List.getElem?_append_right hge] at hj
    exact .inl ⟨.queued, List.mem_singleton.1 (List.mem_of_getElem? hj)⟩

theorem pushed_waiting (h : s.calls[i]? = some .waiting) :
    (s.pushed a).calls[i]? = some .waiting := by
  rw [pushed, List.getElem?_append_left (List.getElem?_eq_some_iff.1 h).1]
  exact h

/-- A blocked consumer that has its turn after a push receives the item. -/
theorem pushed_go (lawful : select.Lawful) (hi : s.queue.items = [])
    (hc : s.queue.cancelled = false) (h : s.calls[i]? = some .waiting) (n : Nat) :
    (s.pushed a).turn select (.go i n) = s.handed a i (.holding a) := by
  have one : (s.pushed a).queue.items = [a] := by simp [pushed, send, hi]
  rw [turn_received lawful (pushed_waiting h) one hc]
  simp [handed, pushed, send, ← hi]

theorem handed_call (h : s.calls[i]? = some .waiting) (p : Progress α) :
    (s.handed a i p).calls[i]? = some p :=
  List.getElem?_set_self (List.getElem?_eq_some_iff.1 (pushed_waiting h)).1

/-- With its next turn it goes away with it. -/
theorem handed_go (lawful : select.Lawful) (hc : s.queue.cancelled = false)
    (h : s.calls[i]? = some .waiting) (n : Nat) :
    (s.handed a i (.holding a)).turn select (.go i n) =
      s.handed a i (.finished (.popped (some a))) := by
  rw [turn_kept lawful (handed_call h _) hc]
  simp [handed]

/-- A call that does not have the item is over or still blocked. -/
theorem handed_go_other (lawful : select.Lawful) (quiet : s.Quiet) (hi : s.queue.items = [])
    (hc : s.queue.cancelled = false) {j : Nat} (hij : i ≠ j) (p : Progress α) (n : Nat) :
    (s.handed a i p).turn select (.go j n) = s.handed a i p := by
  cases hj : (s.handed a i p).calls[j]? with
  | none => exact turn_absent hj
  | some p' =>
    have before : (s.pushed a).calls[j]? = some p' := by
      rwa [handed, List.getElem?_set_ne hij] at hj
    rcases quiet.pushed before with ⟨r, rfl⟩ | ⟨rfl, -⟩
    · exact turn_finished lawful hj n
    · exact turn_blocked lawful hj hi hc n

/-- A step of any call keeps to what can become of the item. -/
theorem Woken.go (lawful : select.Lawful) (quiet : s.Quiet) (hi : s.queue.items = [])
    (hc : s.queue.cancelled = false) {t : History α} (h : Woken s a t) (j n : Nat) :
    Woken s a (t.turn select (.go j n)) := by
  cases h with
  | queued =>
    cases hj : (s.pushed a).calls[j]? with
    | none =>
      rw [turn_absent hj]
      exact .queued
    | some p =>
      rcases quiet.pushed hj with ⟨r, rfl⟩ | ⟨rfl, hw⟩
      · rw [turn_finished lawful hj]
        exact .queued
      · rw [pushed_go lawful hi hc hw]
        exact .received j hw
  | received i hw =>
    by_cases hij : i = j
    · subst hij
      rw [handed_go lawful hc hw]
      exact .returned i hw
    · rw [handed_go_other lawful quiet hi hc hij]
      exact .received i hw
  | returned i hw =>
    by_cases hij : i = j
    · subst hij
      rw [turn_finished lawful (handed_call hw _)]
      exact .returned i hw
    · rw [handed_go_other lawful quiet hi hc hij]
      exact .returned i hw

theorem Woken.run (lawful : select.Lawful) (quiet : s.Quiet) (hi : s.queue.items = [])
    (hc : s.queue.cancelled = false) {t : History α} (h : Woken s a t) (steps : List (Nat × Nat)) :
    Woken s a (t.run select (steps.map fun (j, n) => .go j n)) := by
  induction steps generalizing t with
  | nil => exact h
  | cons step steps ih => exact ih (h.go lawful quiet hi hc step.1 step.2)

/-- How a consumer stands that waited when the queue ended. -/
def Leaves (p : Progress α) : Prop :=
  p = .waiting ∨ (∃ a, p = .holding a) ∨ p = .finished (.popped none)

/-- What is left of the calls that were under way in `s`, where the queue had ended: whatever goes
in or out goes by them, and a consumer that waited goes away without an item. -/
structure Late (s t : History α) : Prop where
  cancelled : t.queue.cancelled = true
  begun : ∀ (i : Nat) (p : Progress α), t.calls[i]? = some p →
    (∃ a, p = .sending a) ∨ p = .taking ∨ p = .waiting → s.calls[i]? = some p
  leaves : ∀ i : Nat, s.calls[i]? = some .waiting → ∃ p, t.calls[i]? = some p ∧ Leaves p
  sent : ∃ sent, t.sent = s.sent ++ sent ∧ ∀ x ∈ sent, s.calls[x.1]? = some (.sending x.2)
  taken : ∃ taken, t.taken = s.taken ++ taken ∧
    ∀ x ∈ taken, s.calls[x.1]? = some .taking ∨ s.calls[x.1]? = some .waiting

end History

namespace Proceeds

theorem begun (h : Proceeds q p p' q')
    (hp : (∃ a, p' = .sending a) ∨ p' = .taking ∨ p' = .waiting) :
    p = p' := by
  cases h with
  | blocked => rfl
  | sent | took | found_nothing | woken | received | kept | dropped | finished => simp at hp

theorem leaves (h : Proceeds q p p' q') (hc : q.cancelled = true) (hp : History.Leaves p) :
    History.Leaves p' := by
  cases h with
  | blocked => exact hp
  | woken | dropped => exact .inr (.inr rfl)
  | received => exact .inr (.inl ⟨_, rfl⟩)
  | kept _ hopen => simp [hc] at hopen
  | finished => exact hp
  | sent | took | found_nothing => simp [History.Leaves] at hp

theorem took_from (h : Proceeds q p p' q') (ht : p.took? p' = some a) :
    p = .taking ∨ p = .waiting := by
  cases h with
  | took | found_nothing => exact .inl rfl
  | blocked | woken | received => exact .inr rfl
  | sent | kept | dropped | finished => cases ht

end Proceeds

theorem Progress.eq_of_sent (h : p.sent? = some a) : p = .sending a := by
  cases p <;> cases h
  rfl

namespace History

theorem Late.refl (hc : s.queue.cancelled = true) : Late s s :=
  ⟨hc, fun _ _ h _ => h, fun _ h => ⟨_, h, .inl rfl⟩, ⟨[], by simp⟩, ⟨[], by simp⟩⟩

/-- A call that comes after the end is over at once. -/
theorem enter_late (hc : q.cancelled = true) (c : Call α) :
    ∃ r, q.enter c = (.finished r, q) ∧ ∀ a, r ≠ .popped (some a) := by
  obtain ⟨items, cancelled⟩ := q
  obtain rfl : cancelled = true := hc
  cases c <;> exact ⟨_, rfl, nofun⟩

theorem Late.call {t : History α} (h : Late s t) (c : Call α) :
    Late s (t.turn select (.call c)) := by
  obtain ⟨r, entered, -⟩ := enter_late h.cancelled c
  rw [turn_call, entered]
  refine ⟨h.cancelled, ?_, ?_, h.sent, h.taken⟩
  · intro i p hi hp
    rcases Nat.lt_or_ge i t.calls.length with hlt | hge
    · rw [List.getElem?_append_left hlt] at hi
      exact h.begun i p hi hp
    · rw [List.getElem?_append_right hge] at hi
      obtain rfl := List.mem_singleton.1 (List.mem_of_getElem? hi)
      simp at hp
  · intro i hw
    obtain ⟨p, hp, leaves⟩ := h.leaves i hw
    refine ⟨p, ?_, leaves⟩
    rw [List.getElem?_append_left (List.getElem?_eq_some_iff.1 hp).1]
    exact hp

theorem Late.go (lawful : select.Lawful) {t : History α} (h : Late s t) (i n : Nat) :
    Late s (t.turn select (.go i n)) := by
  cases hi : t.calls[i]? with
  | none =>
    rw [turn_absent hi]
    exact h
  | some p =>
    obtain ⟨p', q', step, hturn⟩ := turn_go lawful hi n
    have here : i < t.calls.length := (List.getElem?_eq_some_iff.1 hi).1
    rw [hturn]
    refine ⟨step.cancelled.trans h.cancelled, ?_, ?_, ?_, ?_⟩
    · intro j p₀ hj hp₀
      by_cases hij : i = j
      · subst hij
        rw [List.getElem?_set_self here] at hj
        cases hj
        obtain rfl := step.begun hp₀
        exact h.begun i p hi hp₀
      · rw [List.getElem?_set_ne hij] at hj
        exact h.begun j p₀ hj hp₀
    · intro j hw
      obtain ⟨p₀, hp₀, leaves⟩ := h.leaves j hw
      by_cases hij : i = j
      · subst hij
        rw [hi] at hp₀
        cases hp₀
        exact ⟨p', List.getElem?_set_self here, step.leaves h.cancelled leaves⟩
      · exact ⟨p₀, by rwa [List.getElem?_set_ne hij], leaves⟩
    · obtain ⟨sent, hsent, from_begun⟩ := h.sent
      refine ⟨sent ++ p.sent?.toList.map fun a => (i, a), by simp [hsent], ?_⟩
      intro x hx
      rcases List.mem_append.1 hx with hx | hx
      · exact from_begun x hx
      · obtain ⟨a, ha, rfl⟩ := List.mem_map.1 hx
        obtain rfl := Progress.eq_of_sent (by simpa using ha)
        exact h.begun i _ hi (.inl ⟨a, rfl⟩)
    · obtain ⟨taken, htaken, from_begun⟩ := h.taken
      refine ⟨taken ++ (p.took? p').toList.map fun a => (i, a), by simp [htaken], ?_⟩
      intro x hx
      rcases List.mem_append.1 hx with hx | hx
      · exact from_begun x hx
      · obtain ⟨a, ha, rfl⟩ := List.mem_map.1 hx
        rcases step.took_from (by simpa using ha) with rfl | rfl
        · exact .inl (h.begun i _ hi (.inr (.inl rfl)))
        · exact .inr (h.begun i _ hi (.inr (.inr rfl)))

theorem Late.run (lawful : select.Lawful) {t : History α} (h : Late s t) (ts : List (Turn α)) :
    Late s (t.run select ts) := by
  induction ts generalizing t with
  | nil => exact h
  | cons turn ts ih =>
    cases turn with
    | call c => exact ih (h.call c)
    | go i n => exact ih (h.go lawful i n)

/-- Where nothing was under way but blocked consumers, nothing goes in or out after the end. -/
theorem Late.quiet {t : History α} (late : Late s t) (hs : s.Sound) (ht : t.Sound)
    (hc : s.queue.cancelled = true) (quiet : s.Quiet) :
    t.queue = s.queue ∧ t.sent = s.sent ∧ t.taken = s.taken := by
  obtain ⟨sent, hsent, sends⟩ := late.sent
  obtain ⟨taken, htaken, takes⟩ := late.taken
  obtain rfl : sent = [] := by
    refine List.eq_nil_iff_forall_not_mem.2 fun x hx => ?_
    rcases quiet _ (List.mem_of_getElem? (sends x hx)) with ⟨r, h⟩ | ⟨h, -⟩ <;> cases h
  have flow : taken.map Prod.snd ++ t.queue.items = s.queue.items := by
    have later := ht.fifo
    rw [hsent, htaken, List.append_nil, List.map_append, List.append_assoc, ← hs.fifo] at later
    exact List.append_cancel_left later
  obtain rfl : taken = [] := by
    refine List.eq_nil_iff_forall_not_mem.2 fun x hx => ?_
    rcases takes x hx with h | h
    · rcases quiet _ (List.mem_of_getElem? h) with ⟨r, h⟩ | ⟨h, -⟩ <;> cases h
    · -- a consumer waits, so there was nothing to take
      rcases quiet _ (List.mem_of_getElem? h) with ⟨r, h⟩ | ⟨-, empty⟩
      · cases h
      · rw [empty] at flow
        have none : taken.map Prod.snd = [] := (List.append_eq_nil_iff.1 flow).1
        rw [List.map_eq_nil_iff.1 none] at hx
        cases hx
  refine ⟨?_, by simpa using hsent, by simpa using htaken⟩
  have items : t.queue.items = s.queue.items := flow
  have cancelled : t.queue.cancelled = s.queue.cancelled := late.cancelled.trans hc.symm
  calc t.queue = ⟨t.queue.items, t.queue.cancelled⟩ := rfl
    _ = s.queue := by rw [items, cancelled]

end History

namespace History

theorem Quiet.cancel (quiet : s.Quiet) : (s.turn select (.call .cancel)).Quiet := by
  rw [turn_call]
  intro p hp
  rcases List.mem_append.1 hp with hp | hp
  · exact quiet p hp
  · exact .inl ⟨.cancelled, List.mem_singleton.1 hp⟩

end History

/-- Two consumers wait. The second goes away with an item and the first has received another; of two
more calls one takes what is pushed between them and the other waits. -/
def busy : List (Turn Nat) :=
  [.call .waitAndPop, .call .waitAndPop, .go 0 0, .go 1 0, .call (.push 1), .go 2 0, .go 1 0,
    .go 1 0, .call (.push 2), .go 3 0, .go 0 0, .call (.push 3), .go 4 0, .call .tryPop, .go 5 0,
    .call .waitAndPop, .go 6 0]

end QueryPool.WorkQueue
