import QueryPool.Proofs.Pool.Closing

namespace QueryPool

variable {p q : Pool} {g : Log}

namespace Scene

theorem step_resume {k : Nat} (h : p.resume k = some q) (g : Log) :
    step ⟨p, g⟩ (.resume k) = some ⟨q, g.afterResume p k⟩ := by
  simp only [step, Pool.move, h, Option.map_some, Log.after]

end Scene

namespace Pool

open Link (Outcome)
open Scene (Leads)

variable {α : Type} {c c' : Caller}

@[simp] theorem callers_join (p : Pool) (c : Caller) :
    (p.join c).callers[p.callers.length]? = some c := by
  simp [join]

theorem dismiss_join (p : Pool) (c : Caller) : (p.join c).dismiss p.callers.length = p := by
  simp [join, dismiss, List.eraseIdx_append_of_length_le]

theorem setCaller_join (p : Pool) (c c' : Caller) :
    (p.join c).setCaller p.callers.length c' = p.join c' := by
  simp [join, setCaller]

theorem report_join (p : Pool) (c : Caller) (r : Except PoolError α) :
    (p.join c).report r = (p.report r).join c := by
  simp only [report_eq, join]

theorem report_map {β : Type} (p : Pool) (r : Except PoolError α) (f : α → β) :
    p.report (r.map f) = p.report r := by
  cases r <;> rfl

theorem submitUnawaited_join (p : Pool) (c : Caller) (t : Task) :
    (p.join c).submitUnawaited t = (p.submitUnawaited t).join c := by
  unfold submitUnawaited
  cases hc : p.queue.cancelled with
  | true => rw [enqueue_refused _ hc, enqueue_refused (p := p.join c) _ hc]; rfl
  | false => rw [enqueue_accepted _ hc, enqueue_accepted (p := p.join c) _ hc]; rfl

/-- The pool after a step of the last caller, who goes on at `c'`. -/
theorem step_last (h : (p.join c).resume p.callers.length =
    some ((q.join c).setCaller p.callers.length c')) (same : q.callers = p.callers) (g : Log) :
    ∃ g', Scene.step ⟨p.join c, g⟩ (.resume p.callers.length) = some ⟨q.join c', g'⟩ := by
  rw [← same, setCaller_join, same] at h
  exact ⟨_, Scene.step_resume h g⟩

/-- The pool after the last caller is done. -/
theorem leave_last (h : (p.join c).resume p.callers.length =
    some ((q.join c).dismiss p.callers.length)) (same : q.callers = p.callers) (g : Log) :
    ∃ g', Scene.step ⟨p.join c, g⟩ (.resume p.callers.length) = some ⟨q, g'⟩ := by
  rw [← same, dismiss_join, same] at h
  exact ⟨_, Scene.step_resume h g⟩

/-- A direct call that nothing comes between. -/
theorem onDirect_leads (f : Link → Outcome α) (p : Pool) (g : Log) :
    ∃ g', Leads ⟨p.enter f, g⟩ ⟨(p.onDirect f).2, g'⟩ := by
  rcases hl : p.lend f with ⟨e | r, q⟩
  · rw [enter_refused hl, onDirect, hl]
    exact ⟨g, .refl _⟩
  · have returned : (q.join (.returning (r.map fun _ => ()))).resume q.callers.length =
        some (((q.report r).join (.returning (r.map fun _ => ()))).dismiss q.callers.length) := by
      simp only [resume, callers_join, report_map, report_join]
    obtain ⟨g', last⟩ := leave_last returned (callers_report q r) g
    rw [enter_made hl, onDirect, hl]
    exact ⟨g', .cons last (.refl _)⟩

theorem pinging_resume {i : Nat} {d : Connection} (hd : p.direct[i]? = some d) :
    (p.join (.pinging i)).resume p.callers.length =
      some (((p.called i d Link.ping).join (.pinging i)).setCaller p.callers.length
        (.pinged i (Link.ping ⟨d, p.server⟩).1)) := by
  simp only [resume, callers_join, callOn_some (p := p.join (.pinging i)) hd]
  rfl

theorem reported_resume (p : Pool) (i : Nat) (r : Except PoolError Unit) :
    (p.join (.pinged i r)).resume p.callers.length =
      some (((p.report r).join (.pinged i r)).setCaller p.callers.length (.pinging (i + 1))) := by
  simp only [resume, callers_join, report_join]

theorem pingDirect_leads {n i : Nat} (hn : i + n = p.direct.length) (g : Log) :
    ∃ g', Leads ⟨p.join (.pinging i), g⟩
      ⟨(pingDirect n i p).join (.leaving p.workers.length), g'⟩ := by
  induction n generalizing i p g with
  | zero =>
    have none : p.direct[i]? = none := List.getElem?_eq_none (by omega)
    have past : (p.join (.pinging i)).resume p.callers.length =
        some ((p.join (.pinging i)).setCaller p.callers.length (.leaving p.workers.length)) := by
      simp only [resume, callers_join, callOn_none (p := p.join (.pinging i)) none]
      rfl
    obtain ⟨g', first⟩ := step_last past rfl g
    exact ⟨g', .cons first (.refl _)⟩
  | succ n ih =>
    obtain ⟨c, hc⟩ : ∃ c, p.direct[i]? = some c :=
      ⟨_, List.getElem?_eq_getElem (show i < p.direct.length by omega)⟩
    obtain ⟨g₁, first⟩ := step_last (pinging_resume hc) rfl g
    obtain ⟨g₂, second⟩ := step_last (reported_resume (p.called i c Link.ping) i _)
      (callers_report _ _) g₁
    have length : ((p.called i c Link.ping).report (Link.ping ⟨c, p.server⟩).1).direct.length =
        p.direct.length := by
      rw [report_eq]
      exact List.length_set
    have workers : ((p.called i c Link.ping).report (Link.ping ⟨c, p.server⟩).1).workers =
        p.workers := by
      rw [report_eq]
      rfl
    obtain ⟨g', rest⟩ := ih (i := i + 1) (by rw [length]; omega) g₂
    have next : pingDirect (n + 1) i p =
        pingDirect n (i + 1) ((p.called i c Link.ping).report (Link.ping ⟨c, p.server⟩).1) := by
      simp only [pingDirect, callOn_some hc]
    rw [workers, ← next] at rest
    exact ⟨g', .cons first (.cons second rest)⟩

theorem leaving_leads (l : List Nat) (p : Pool) (g : Log) :
    ∃ g', Leads ⟨p.join (.leaving l.length), g⟩
      ⟨l.foldl (fun p _ => p.submitUnawaited .ping) p, g'⟩ := by
  induction l generalizing p g with
  | nil =>
    have gone : (p.join (.leaving 0)).resume p.callers.length =
        some ((p.join (.leaving 0)).dismiss p.callers.length) := by
      simp only [resume, callers_join]
    obtain ⟨g', last⟩ := leave_last gone rfl g
    exact ⟨g', .cons last (.refl _)⟩
  | cons n l ih =>
    have left : (p.join (.leaving (l.length + 1))).resume p.callers.length =
        some (((p.submitUnawaited .ping).join (.leaving (l.length + 1))).setCaller
          p.callers.length (.leaving l.length)) := by
      simp only [resume, callers_join, submitUnawaited_join]
    obtain ⟨g₁, first⟩ := step_last left (enqueue_posted ⟨.ping, none⟩ p).same.1 g
    obtain ⟨g', rest⟩ := ih (p.submitUnawaited .ping) g₁
    exact ⟨g', .cons first rest⟩

theorem keepAlive_leads (p : Pool) (g : Log) :
    ∃ g', Leads ⟨p.join (.pinging 0), g⟩ ⟨p.keepAlive, g'⟩ := by
  obtain ⟨g₁, pings⟩ := pingDirect_leads (Nat.zero_add p.direct.length) g
  obtain ⟨g', rest⟩ := leaving_leads (List.range p.workers.length)
    (pingDirect p.direct.length 0 p) g₁
  rw [List.length_range] at rest
  exact ⟨g', pings.trans rest⟩

/-- The pool after a call that nothing comes between. -/
def whole (p : Pool) : PoolCall → Pool
  | .keepAlive => p.keepAlive
  | .execute sql => (p.execute sql).2
  | .executeBound s => (p.executeBound s).2
  | .query sql => (p.query sql).2
  | .queryBound s => (p.queryBound s).2
  | .commit t retries => (p.commit t retries).2
  | c => p.after c

/-- Between calls, a call from its beginning to its end is a run of moves. -/
theorem whole_leads (between : p.closing = false) (c : PoolCall) (g : Log) :
    ∃ g', Leads ⟨p, g⟩ ⟨p.whole c, g'⟩ := by
  have begun : Scene.step ⟨p, g⟩ (.call c) = some ⟨p.after c, g.afterCall p c⟩ := by
    simp [Scene.step, move, between, Log.after]
  have rest : ∃ g', Leads ⟨p.after c, g.afterCall p c⟩ ⟨p.whole c, g'⟩ := by
    cases c with
    | keepAlive => exact keepAlive_leads p _
    | execute sql => exact onDirect_leads (Link.execute sql) p _
    | executeBound s => exact onDirect_leads (Link.executeBound s) p _
    | query sql => exact onDirect_leads (Link.query sql) p _
    | queryBound s => exact onDirect_leads (Link.queryBound s) p _
    | commit t retries => exact onDirect_leads _ p _
    | connect | prepare | submit | submitUnawaited | escape | cancel => exact ⟨_, .refl _⟩
  obtain ⟨g', leads⟩ := rest
  exact ⟨g', .cons begun leads⟩

theorem serveOne_leads {i retries : Nat} (h : p.serveOne i retries = some q) (g : Log) :
    ∃ g', Leads ⟨p, g⟩ ⟨q, g'⟩ := by
  obtain ⟨p₁, hlook, h⟩ := Option.bind_eq_some_iff.1 h
  obtain ⟨p₂, hreceive, h⟩ := Option.bind_eq_some_iff.1 h
  obtain ⟨p₃, hconfirm, h⟩ := Option.bind_eq_some_iff.1 h
  obtain ⟨g', rest⟩ := finish_leads h g
  exact ⟨g', .cons (Scene.step_worker (w := .look) hlook g)
    (.cons (Scene.step_worker (w := .receive) hreceive g)
      (.cons (Scene.step_worker (w := .confirm) hconfirm g) rest))⟩

/-- What a pool does that serves what is queued is a run of moves. -/
theorem serve_leads (p : Pool) (g : Log) : ∃ g', Leads ⟨p, g⟩ ⟨p.serve, g'⟩ := by
  have upTo (n : Nat) : ∀ (p : Pool) g, ∃ g', Leads ⟨p, g⟩ ⟨p.serveUpTo n, g'⟩ := by
    induction n with
    | zero => exact fun p g => ⟨g, .refl _⟩
    | succ n ih =>
      intro p g
      unfold serveUpTo
      split
      · exact ⟨g, .refl _⟩
      · split
        · rename_i p' hp
          obtain ⟨g₁, first⟩ := serveOne_leads hp g
          obtain ⟨g', rest⟩ := ih p' g₁
          exact ⟨g', first.trans rest⟩
        · exact ⟨g, .refl _⟩
  exact upTo p.queueSize p g

end Pool
end QueryPool
