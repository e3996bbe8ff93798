import QueryPool.Proofs.Connection.Idle
import QueryPool.Proofs.Connection.Steady

namespace QueryPool

/-- The text under which a statement is logged: what the registry has for its id, with its values. -/
def Registry.text? (r : Registry) (s : Statement) : Option String :=
  match r.get? s.id, s.values with
  | some t, .ok vs => some (Session.boundText t.sql vs)
  | _, _ => none

def Element.text? (r : Registry) : Element → Option String
  | .raw sql => some sql
  | .bound s => r.text? s

def Transaction.texts? (r : Registry) (t : Transaction) : Option (List String) :=
  t.elements.mapM (Element.text? r)

/-- An empty transaction reaches no server. -/
def Transaction.commits (t : Transaction) : Nat := if t.elements.isEmpty then 0 else 1

/-- The texts that a call which goes well makes visible, in their order. -/
def Request.texts? (r : Registry) : Request → Option (List String)
  | .openSession | .close | .prepareStatements | .ping => some []
  | .execute sql | .query sql => some [sql]
  | .executeBound s | .queryBound s => (r.text? s).map ([·])
  | .transaction t | .commit t _ => t.texts? r

/-- How many transactions a call which goes well commits. -/
def Request.commits : Request → Nat
  | .transaction t | .commit t _ => t.commits
  | _ => 0

theorem Session.bound_ok {ses : Session} {id : Nat} {vs : List Value} {t : String}
    (h : ses.bound id vs = .ok t) :
    ∃ p, ses.prepared.get? id = some p ∧ vs.length = countMarks p.2 ∧ t = boundText p.2 vs := by
  unfold bound at h
  split at h
  · cases h
  · rename_i i sql hget
    simp only at h
    split at h
    · rename_i hlen
      cases h
      exact ⟨(i, sql), hget, hlen, rfl⟩
    · cases h

namespace Link

variable {α : Type} {f : Session.Call α} {text : Session → Except NativeError String}
  {l m l' : Link}

theorem text?_of_bound {s : Statement} {ses : Session} {vs : List Value} {t : String}
    (hl : l.Registered) (hs : l.conn.session = some ses) (hv : s.values = .ok vs)
    (hb : ses.bound s.id vs = .ok t) : l.conn.registry.text? s = some t := by
  obtain ⟨p, hget, _, rfl⟩ := Session.bound_ok hb
  obtain ⟨t, ht, hsql⟩ := hl ses hs s.id p hget
  simp only [Registry.text?, ht, hv, hsql]

/-- Within a transaction it is kept until the commit. -/
theorem Submits.within (hf : Session.Runs f text) {a : α} (h : Submits f l (.ok a) l')
    {texts : List String} (hl : l.Within texts) :
    ∃ ses t, l.conn.session = some ses ∧ text ses = .ok t ∧ l'.Within (texts ++ [t]) ∧
      Shows l [] 0 l' := by
  have hr := h.registered hf.plain hl.registered
  cases h with
  | native opened ran =>
    obtain ⟨t, ht, hrun⟩ := hf.ok ran
    obtain ⟨rfl, rfl⟩ := Session.run_ok hrun
    obtain ⟨ses, hs, hp⟩ := hl.pending
    cases opened.symm.trans hs
    refine ⟨_, t, opened, ht, ⟨hr, _, rfl, ?_⟩, ⟨rfl, ?_, rfl⟩⟩
    · simp only [hp, Option.map_some]
    · simp [hp]

/-- What a call outside a transaction comes to: it shows its texts, or nothing. -/
def Lawful (l : Link) (texts : Option (List String)) (n : Nat) (r : Outcome α) : Prop :=
  r.2.Idle ∧ match r.1 with
    | .ok _ => ∃ ts, texts = some ts ∧ Shows l ts n r.2
    | .error _ => Shows l [] 0 r.2

theorem Lawful.after {texts : Option (List String)} {n : Nat} {r : Outcome α}
    (h : Lawful m texts n r) (h' : Shows l [] 0 m) : Lawful l texts n r := by
  obtain ⟨err | a, l'⟩ := r
  · exact ⟨h.1, h.2.after h'⟩
  · obtain ⟨hi, ts, hts, hs⟩ := h
    exact ⟨hi, ts, hts, hs.after h'⟩

theorem Lawful.map {β : Type} {texts : Option (List String)} {n : Nat} {r : Outcome α}
    (h : Lawful l texts n r) (g : α → β) : Lawful l texts n (r.1.map g, r.2) := by
  obtain ⟨err | a, l'⟩ := r <;> exact h

/-- What the calls of a run that went well say they showed, one after the other. -/
def shown (l : Link) : List Step → List String
  | [] => []
  | .direction d :: steps => (l.step (.direction d)).shown steps
  | .request q :: steps =>
    (match (l.perform q).1 with
      | .ok _ => (q.texts? l.conn.registry).getD []
      | .error _ => []) ++ (l.step (.request q)).shown steps

/-- A server that once loses the session in the middle of a transaction and once lets its commit
lose a race. -/
def rough : Link where
  conn := {
    login := ⟨"localhost", "3306", "trinity", "trinity", "world", false⟩
    side := .sync
    registry := {}
    policy := ⟨1, .zero⟩ }
  server := { rules := [⟨"guid = 2", 2013, some 1⟩, ⟨"COMMIT", 1213, some 1⟩] }

def twoUpdates : Transaction where
  elements := [.raw "UPDATE money WHERE guid = 1", .raw "UPDATE money WHERE guid = 2"]

end Link
end QueryPool
