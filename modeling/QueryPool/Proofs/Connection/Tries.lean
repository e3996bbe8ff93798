import QueryPool.Connection.Transaction

namespace QueryPool.Link

variable {t : Transaction} {l m : Link} {n : Nat} {limit : Duration}

/-- Tries at a transaction that each ended in a deadlock, one after the other. -/
inductive Deadlocks (t : Transaction) : Nat → Link → Link → Prop where
  | none (l : Link) : Deadlocks t 0 l l
  | more {l m l' : Link} {n : Nat} {e : PoolError} (tried : l.attempt t = (.error e, m))
      (lost : e.isDeadlock = true) (rest : Deadlocks t n m l') : Deadlocks t (n + 1) l l'

/-- A try after which no other is made. -/
def Decisive (t : Transaction) (l : Link) : Prop :=
  ∀ e, (l.attempt t).1 = .error e → e.isDeadlock = false

theorem commit_eq (t : Transaction) (b : Budget) (l : Link) :
    (l.commit t b).1 = l.retryDeadlocks t b.limit (b.retries + 1) := by
  rw [commit, retryDeadlocks]

/-- A budget that is spent on deadlocks alone ends the commit. -/
theorem Deadlocks.spent (h : Deadlocks t n l m) :
    l.retryDeadlocks t limit n = (.error (.deadlocked limit), m) := by
  induction h with
  | none => rfl
  | more tried lost _ ih => simp only [retryDeadlocks, tried, lost, if_true, ih]

/-- A try that is no deadlock ends the commit with its own outcome. -/
theorem Deadlocks.ends {tries : Nat} (h : Deadlocks t n l m) (decisive : Decisive t m)
    (enough : n < tries) : l.retryDeadlocks t limit tries = m.attempt t := by
  obtain ⟨tries, rfl⟩ := Nat.exists_eq_add_one.2 (by omega : 0 < tries)
  induction h generalizing tries with
  | none l =>
    unfold retryDeadlocks
    rcases hl : l.attempt t with ⟨e | u, m⟩
    · have notLost := decisive e (by rw [hl])
      simp only [notLost, Bool.false_eq_true, if_false]
    · rfl
  | more tried lost _ ih =>
    obtain ⟨tries, rfl⟩ := Nat.exists_eq_add_one.2 (by omega : 0 < tries)
    rw [retryDeadlocks]
    simp only [tried, lost, if_true]
    exact ih decisive tries (by omega)

theorem retryDeadlocks_cases (t : Transaction) (limit : Duration) (tries : Nat) (l : Link) :
    (∃ m, Deadlocks t tries l m ∧ l.retryDeadlocks t limit tries = (.error (.deadlocked limit), m)) ∨
    (∃ n m, n < tries ∧ Deadlocks t n l m ∧ Decisive t m ∧
      l.retryDeadlocks t limit tries = m.attempt t) := by
  have course : (∃ m, Deadlocks t tries l m) ∨
      ∃ n m, n < tries ∧ Deadlocks t n l m ∧ Decisive t m := by
    induction tries generalizing l with
    | zero => exact .inl ⟨l, .none l⟩
    | succ tries ih =>
      by_cases decisive : Decisive t l
      · exact .inr ⟨0, l, by omega, .none l, decisive⟩
      · obtain ⟨e, decisive⟩ := Classical.not_forall.1 decisive
        obtain ⟨he, lost⟩ := Classical.not_imp.1 decisive
        have tried : l.attempt t = (.error e, (l.attempt t).2) := Prod.ext he rfl
        rw [Bool.not_eq_false] at lost
        rcases ih (l.attempt t).2 with ⟨m, rest⟩ | ⟨n, m, few, rest, decides⟩
        · exact .inl ⟨m, .more tried lost rest⟩
        · exact .inr ⟨n + 1, m, by omega, .more tried lost rest, decides⟩
  rcases course with ⟨m, h⟩ | ⟨n, m, few, h, decisive⟩
  · exact .inl ⟨m, h, h.spent⟩
  · exact .inr ⟨n, m, few, h, decisive, h.ends decisive few⟩

end QueryPool.Link
