import QueryPool.Proofs.Server.Calls
import QueryPool.Proofs.Server.Rules

namespace QueryPool

namespace Server

structure Calm (s : Server) : Prop where
  quiet : ∀ r ∈ s.rules, r.isLive = false
  unrefused : s.refusals = 0

/-- The script and the connects are as they were. -/
structure Noted (s s' : Server) : Prop where
  rules : s'.rules = s.rules
  refusals : s'.refusals = s.refusals
  connects : s'.connects = s.connects

namespace Noted

variable {s s' : Server}

theorem refl (s : Server) : Noted s s := ⟨rfl, rfl, rfl⟩

theorem calm (h : Noted s s') (hs : s.Calm) : s'.Calm := by
  refine ⟨?_, h.refusals.trans hs.unrefused⟩
  rw [h.rules]
  exact hs.quiet

end Noted

end Server

theorem Rule.charge_of_uncharged {rules : List Rule} {text : String}
    (h : ∀ r ∈ rules, r.charges text = false) : Rule.charge text rules = none := by
  rw [charge_eq, payer?, List.findIdx?_eq_none_iff.2 h, Option.bind_none]

/-- A rule that is used up charges nothing. -/
theorem Rule.charge_of_quiet {rules : List Rule} (h : ∀ r ∈ rules, r.isLive = false)
    (text : String) : Rule.charge text rules = none :=
  charge_of_uncharged fun r hr => by simp [charges, h r hr]

theorem Server.Calm.check {s : Server} (h : s.Calm) (text : String) :
    s.check text = (.ok (), s) :=
  check_spared (Rule.charge_of_quiet h.quiet text)

namespace Session

variable {α : Type} {f : Call α}

/-- The session `ses` answers a call on every calm server. -/
def Answers (f : Call α) (ses : Session) : Prop :=
  ∀ srv : Server, srv.Calm → (∃ a, (f ses srv).1 = .ok a) ∧ Server.Noted srv (f ses srv).2.2

theorem run_answers (text : String) (ses : Session) : Answers (run text) ses := by
  intro srv calm
  obtain ⟨id, prepared, pending⟩ := ses
  simp only [run, calm.check]
  cases pending with
  | none => exact ⟨⟨(), rfl⟩, rfl, rfl, rfl⟩
  | some p => exact ⟨⟨(), rfl⟩, rfl, rfl, rfl⟩

/-- A call that runs one text is answered where the session gives that text. -/
theorem Runs.answers {text : Session → Except NativeError String} (h : Runs f text) {ses : Session}
    {t : String} (ht : text ses = .ok t) : Answers f ses := by
  intro srv calm
  obtain ⟨⟨u, hr⟩, noted⟩ := run_answers t ses srv calm
  obtain ⟨hfirst, hrest⟩ := h.run ses srv t ht
  rw [hrest]
  refine ⟨?_, noted⟩
  cases hf : (f ses srv).1 with
  | error err =>
    rw [hf, hr] at hfirst
    cases hfirst
  | ok a => exact ⟨a, rfl⟩

theorem ping_answers (ses : Session) : Answers ping ses := by
  intro srv calm
  unfold ping
  rw [calm.check]
  exact ⟨⟨(), rfl⟩, rfl, rfl, rfl⟩

theorem begin_answers (ses : Session) : Answers begin ses := by
  intro srv calm
  unfold begin
  rw [calm.check]
  exact ⟨⟨(), rfl⟩, .refl srv⟩

theorem commit_answers (ses : Session) : Answers commit ses := by
  intro srv calm
  obtain ⟨id, prepared, pending⟩ := ses
  simp only [commit, calm.check]
  cases pending with
  | none => exact ⟨⟨(), rfl⟩, .refl srv⟩
  | some p => exact ⟨⟨(), rfl⟩, rfl, rfl, rfl⟩

end Session
end QueryPool
