import QueryPool.Slot

namespace QueryPool

variable {α : Type}

namespace Slot

/-- The way of a slot: it is settled once, and what it holds can be taken. -/
inductive Becomes : Slot α → Slot α → Prop where
  | same (s : Slot α) : Becomes s s
  | settled (s : Slot α) : Becomes .pending s
  | taken (a : α) : Becomes (.ready a) .taken

/-- What a slot says of the results that were kept in it and given out of it. -/
inductive Tells : Slot α → List α → List α → Prop where
  | pending : Tells .pending [] []
  | ready (a : α) : Tells (.ready a) [a] []
  | taken (a : α) : Tells .taken [a] [a]
  | broken : Tells .broken [] []

variable {s t : Slot α} {kept given : List α}

theorem Becomes.trans {u : Slot α} (h : s.Becomes t) (h' : t.Becomes u) : s.Becomes u := by
  cases h with
  | same => exact h'
  | settled => exact .settled u
  | taken a =>
    cases h' with
    | same => exact .taken a

/-- Once settled, a slot says the same to everyone who waits. -/
theorem Becomes.settled? {st : Status} (h : s.Becomes t) (hs : s.settled? = some st) :
    t.settled? = some st := by
  cases h with
  | same => exact hs
  | settled => cases hs
  | taken => exact hs

theorem Becomes.isValid (h : s.Becomes t) (hs : s.isValid = false) : t.isValid = false := by
  cases h with
  | same => exact hs
  | settled => cases hs
  | taken => cases hs

theorem Becomes.of_pending (h : s.Becomes pending) : s = pending := by
  cases h with
  | same | settled => rfl

theorem Becomes.of_broken (h : broken.Becomes t) : t = broken := by
  cases h with
  | same => rfl

theorem set_becomes (s : Slot α) (a : α) : s.Becomes (s.set a).2 := by
  cases s with
  | pending => exact .settled _
  | ready | taken | broken => exact .same _

theorem abandon_becomes (s : Slot α) : s.Becomes s.abandon := by
  cases s with
  | pending => exact .settled _
  | ready | taken | broken => exact .same _

theorem take_becomes (s : Slot α) : s.Becomes s.take.2 := by
  cases s with
  | ready a => exact .taken a
  | pending | taken | broken => exact .same _

theorem Tells.set (h : s.Tells kept given) (a : α) :
    (s.set a).2.Tells (kept ++ if (s.set a).1 then [a] else []) given := by
  cases h with
  | pending => exact .ready a
  | ready b => exact .ready b
  | taken b => exact .taken b
  | broken => exact .broken

theorem Tells.abandon (h : s.Tells kept given) : s.abandon.Tells kept given := by
  cases h with
  | pending => exact .broken
  | ready a => exact .ready a
  | taken a => exact .taken a
  | broken => exact .broken

/-- A result that is taken joins those that were given. -/
theorem Tells.take (h : s.Tells kept given) :
    s.take.2.Tells kept (given ++ s.take.1.toList) := by
  cases h with
  | pending => exact .pending
  | ready a => exact .taken a
  | taken a => exact .taken a
  | broken => exact .broken

theorem Tells.kept_once (h : s.Tells kept given) : kept.length ≤ 1 := by
  cases h <;> simp

theorem Tells.given_kept (h : s.Tells kept given) : given <+: kept := by
  cases h <;> simp

theorem Tells.isReady_iff (h : s.Tells kept given) :
    s.isReady = true ↔ kept ≠ [] ∧ given = [] := by
  cases h <;> simp [isReady]

theorem Tells.settled_of_kept (h : s.Tells kept given) (hk : kept ≠ []) : s ≠ .pending := by
  cases h with
  | pending => exact absurd rfl hk
  | ready | taken | broken => exact nofun

theorem Tells.ready_of_kept {a : α} (h : s.Tells [a] []) : s = .ready a := by
  cases h with
  | ready => rfl

theorem Tells.take_nothing (h : s.Tells kept given) (hk : kept = [] ∨ given ≠ []) :
    s.take = (none, s) := by
  cases h with
  | ready a => exact absurd hk (by simp)
  | pending | taken | broken => rfl

theorem Tells.unkept (h : s.Tells [] given) : s = .pending ∨ s = .broken := by
  cases h with
  | pending => exact .inl rfl
  | broken => exact .inr rfl

end Slot

namespace Handoff

/-- What the holder of a future does with it. -/
inductive Query where
  | take
  /-- a wait and then a take; if it has to wait, the take is a turn of its own -/
  | get
  /-- blocks a thread or a task, unless the consumer gives up -/
  | wait
  /-- a wait that is over at once -/
  | poll
  | isValid
  | isReady

/-- What the producer and the consumers do, one at a time. Every consumer names a future. -/
inductive Turn (α : Type) where
  | set (a : α)
  | dropPromise
  /-- another future from the promise -/
  | future
  /-- another future from a future -/
  | clone (f : Nat)
  | ask (f : Nat) (q : Query)
  /-- a consumer has waited as long as it wanted to -/
  | giveUp

/-- What somebody was told. -/
inductive Answer (α : Type) where
  | stored (a : α) (kept : Bool)
  | got (r : Option α)
  | status (st : Status)
  | valid (b : Bool)
  | ready (b : Bool)

namespace Answer

def kept? : Answer α → Option α
  | stored a true => some a
  | _ => none

def given? : Answer α → Option α
  | got r => r
  | _ => none

def status? : Answer α → Option Status
  | status st => some st
  | _ => none

def valid? : Answer α → Option Bool
  | valid b => some b
  | _ => none

theorem kept_stored (a : α) (k : Bool) :
    [stored a k].filterMap kept? = if k then [a] else [] := by
  cases k <;> rfl

theorem given_got (r : Option α) : [got r].filterMap given? = r.toList := by
  cases r <;> rfl

/-- What is not forgotten: a slot that was settled, or had no more to give, still is. -/
def Holds (s : Slot α) : Answer α → Prop
  | status st => st ≠ .timeout → s.settled? = some st
  | valid b => b = false → s.isValid = false
  | stored .. | got _ | ready _ => True

/-- The answer of a slot as it is now. -/
def Fresh (s : Slot α) : Answer α → Prop
  | status st => st = s.status
  | valid b => b = s.isValid
  | stored .. | got _ | ready _ => True

/-- The second answer, which comes later, does not take the first back. -/
def Agrees : Answer α → Answer α → Prop
  | status st, status st' => st ≠ .timeout → st' = st
  | valid b, valid b' => b = false → b' = false
  | _, _ => True

variable {s t : Slot α} {x y : Answer α}

theorem Holds.becomes (h : x.Holds s) (ht : s.Becomes t) : x.Holds t := by
  cases x with
  | status st => exact fun hst => ht.settled? (h hst)
  | valid b => exact fun hb => ht.isValid (h hb)
  | stored | got | ready => trivial

theorem Fresh.holds (h : x.Fresh s) : x.Holds s := by
  cases x with
  | status st =>
    intro hst
    have hs : st = s.status := h
    subst hs
    cases s with
    | pending => exact absurd rfl hst
    | ready | taken | broken => rfl
  | valid b =>
    intro hb
    exact h.symm.trans hb
  | stored | got | ready => trivial

theorem Holds.agrees (h : x.Holds s) (hy : y.Fresh s) : x.Agrees y := by
  cases x with
  | status st =>
    cases y with
    | status st' => exact fun hst => hy.trans (Slot.status_of_settled (h hst))
    | stored | got | valid | ready => trivial
  | valid b =>
    cases y with
    | valid b' => exact fun hb => hy.trans (h hb)
    | stored | got | status | ready => trivial
  | stored | got | ready => trivial

end Answer

/-- A promise with its futures, and all that was said about them so far. -/
structure History (α : Type) where
  handoff : Handoff α := {}
  log : List (Answer α) := []

namespace History

/-- The results that were kept. -/
def kept (s : History α) : List α := s.log.filterMap Answer.kept?

/-- The results that consumers got. -/
def given (s : History α) : List α := s.log.filterMap Answer.given?

def statuses (s : History α) : List Status := s.log.filterMap Answer.status?

def validities (s : History α) : List Bool := s.log.filterMap Answer.valid?

/-- The consumers that were let go return with their answers. -/
def record (s : History α) (h : Handoff α) (told : List (Answer α)) : History α :=
  let (returned, h) := h.join
  ⟨h, s.log ++ (told ++ (returned.getD []).map .status)⟩

def asked (s : History α) : Query → History α
  | .take => s.record s.handoff.take.2 [.got s.handoff.take.1]
  | .get =>
    match s.handoff.slot.settled? with
    | none => s.record (s.handoff.await 1) []
    | some _ => s.record s.handoff.take.2 [.got s.handoff.take.1]
  | .wait => s.record (s.handoff.await 1) []
  | .poll => s.record s.handoff [.status s.handoff.slot.status]
  | .isValid => s.record s.handoff [.valid s.handoff.slot.isValid]
  | .isReady => s.record s.handoff [.ready s.handoff.slot.isReady]

/-- A turn of somebody who is not there, or does not wait, is void. -/
def turn (s : History α) : Turn α → History α
  | .set a =>
    match s.handoff.set a with
    | (some kept, h) => s.record h [.stored a kept]
    | (none, _) => s
  | .dropPromise => s.record s.handoff.dropPromise []
  | .future =>
    if s.handoff.promised then
      s.record { s.handoff with holders := s.handoff.holders + 1 } []
    else s
  | .clone f =>
    if f < s.handoff.holders then
      s.record { s.handoff with holders := s.handoff.holders + 1 } []
    else s
  | .ask f q => if f < s.handoff.holders then s.asked q else s
  | .giveUp =>
    if 0 < s.handoff.waiting then
      s.record { s.handoff with waiting := s.handoff.waiting - 1 } [.status .timeout]
    else s

def run (s : History α) (ts : List (Turn α)) : History α := ts.foldl turn s

/-- Between two turns nobody waits on a slot that is settled, and all that was said still holds. -/
structure Sound (s : History α) : Prop where
  tells : s.handoff.slot.Tells s.kept s.given
  promised : s.handoff.slot = .pending → s.handoff.promised = true
  broken : s.handoff.slot = .broken → s.handoff.promised = false
  waiting : s.handoff.slot ≠ .pending → s.handoff.waiting = 0
  released : s.handoff.released = []
  holds : ∀ x ∈ s.log, x.Holds s.handoff.slot
  agrees : s.log.Pairwise Answer.Agrees

/-- A turn may leave this handoff and tell this, before the consumers are let go. -/
structure Admits (s : History α) (h : Handoff α) (told : List (Answer α)) : Prop where
  becomes : s.handoff.slot.Becomes h.slot
  tells : h.slot.Tells (s.kept ++ told.filterMap Answer.kept?)
    (s.given ++ told.filterMap Answer.given?)
  promised : h.slot = .pending → h.promised = true
  broken : h.slot = .broken → h.promised = false
  released : h.released = []
  fresh : ∀ x ∈ told, x.Fresh h.slot

end History

namespace History

variable {h : Handoff α} {s : History α} {told : List (Answer α)}

/-- With nobody let go, nothing is left to record but what is told. -/
theorem record_told (hr : h.released = []) : s.record h told = ⟨h, s.log ++ told⟩ := by
  cases hs : h.slot.settled? with
  | none => simp [record, join, hs]
  | some st => simp [record, join, hs, ← hr]

/-- Once a slot is settled, its release sends everyone back who waited on it. -/
theorem record_settled (told : List (Answer α)) {st : Status} (hs : h.slot.settled? = some st)
    (hr : h.released = []) : s.record h.release told = ⟨{ h with waiting := 0 },
      s.log ++ (told ++ List.replicate h.waiting (.status st))⟩ := by
  rw [release_settled hs]
  simp [record, join, hs, hr]

theorem Sound.record (hs : s.Sound) (ha : s.Admits h told) :
    (s.record h.release told).Sound := by
  have still {x : Answer α} (hx : x ∈ s.log) : x.Holds h.slot := (hs.holds x hx).becomes ha.becomes
  have agrees (more : List (Answer α)) (fresh : ∀ x ∈ more, x.Fresh h.slot) :
      (s.log ++ more).Pairwise Answer.Agrees := by
    refine List.pairwise_append.2 ⟨hs.agrees, ?_, fun x hx y hy => (still hx).agrees (fresh y hy)⟩
    exact List.pairwise_of_forall_mem_list fun x hx y hy => (fresh x hx).holds.agrees (fresh y hy)
  have holds (more : List (Answer α)) (fresh : ∀ x ∈ more, x.Fresh h.slot) :
      ∀ x ∈ s.log ++ more, x.Holds h.slot := by
    intro x hx
    rcases List.mem_append.1 hx with hx | hx
    · exact still hx
    · exact (fresh x hx).holds
  cases hst : h.slot.settled? with
  | none =>
    have hp := Slot.pending_of_unsettled hst
    rw [release_pending hp, record_told ha.released]
    refine ⟨?_, ha.promised, ha.broken, fun hne => absurd hp hne, ha.released,
      holds told ha.fresh, agrees told ha.fresh⟩
    simpa [kept, given] using ha.tells
  | some st =>
    rw [record_settled _ hst ha.released]
    have fresh : ∀ x ∈ told ++ List.replicate h.waiting (.status st), x.Fresh h.slot := by
      intro x hx
      rcases List.mem_append.1 hx with hx | hx
      · exact ha.fresh x hx
      · rw [List.eq_of_mem_replicate hx]
        exact (Slot.status_of_settled hst).symm
    refine ⟨?_, fun hp => absurd hp (Slot.ne_pending_of_settled hst), ha.broken, fun _ => rfl,
      ha.released, holds _ fresh, agrees _ fresh⟩
    simpa [kept, given, List.filterMap_replicate, Answer.kept?, Answer.given?] using ha.tells

/-- Whatever leaves the slot as it is and is no result. -/
theorem Sound.admits (hs : s.Sound) {h : Handoff α} (slot : h.slot = s.handoff.slot)
    (promised : h.promised = s.handoff.promised) (released : h.released = [])
    (silent : told.filterMap Answer.kept? = [] ∧ told.filterMap Answer.given? = [])
    (fresh : ∀ x ∈ told, x.Fresh s.handoff.slot) : s.Admits h told where
  becomes := by
    rw [slot]
    exact .same _
  tells := by
    rw [slot, silent.1, silent.2, List.append_nil, List.append_nil]
    exact hs.tells
  promised := by
    rw [slot, promised]
    exact hs.promised
  broken := by
    rw [slot, promised]
    exact hs.broken
  released := released
  fresh := by
    rw [slot]
    exact fresh

theorem turn_set (s : History α) (a : α) (hp : s.handoff.promised = true) :
    let r := s.handoff.slot.set a
    s.turn (.set a) = s.record { s.handoff with slot := r.2 }.release [.stored a r.1] := by
  simp [turn, Handoff.set, hp]

theorem Sound.set (hs : s.Sound) (a : α) (hp : s.handoff.promised = true) :
    let r := s.handoff.slot.set a
    s.Admits { s.handoff with slot := r.2 } [.stored a r.1] := by
  refine ⟨s.handoff.slot.set_becomes a, ?_, fun _ => hp, fun hb => hs.broken (Slot.set_broken hb),
    hs.released, by simp [Answer.Fresh]⟩
  have tells := hs.tells.set a
  rw [← Answer.kept_stored, ← List.append_nil s.given] at tells
  exact tells

theorem turn_drop (s : History α) (hp : s.handoff.promised = true) : s.turn .dropPromise =
    s.record { s.handoff with slot := s.handoff.slot.abandon, promised := false }.release [] := by
  simp [turn, dropPromise, hp]

theorem Sound.drop (hs : s.Sound) :
    s.Admits { s.handoff with slot := s.handoff.slot.abandon, promised := false } [] := by
  refine ⟨s.handoff.slot.abandon_becomes, ?_, ?_, fun _ => rfl, hs.released, nofun⟩
  · simpa using hs.tells.abandon
  · intro hp
    exact absurd hp s.handoff.slot.abandon_settled

theorem Sound.take (hs : s.Sound) : s.Admits s.handoff.take.2 [.got s.handoff.take.1] := by
  have becomes : s.handoff.slot.Becomes s.handoff.take.2.slot := s.handoff.slot.take_becomes
  refine ⟨becomes, ?_, ?_, fun hb => hs.broken (Slot.take_broken hb), hs.released,
    by simp [Answer.Fresh]⟩
  · have tells := hs.tells.take
    rw [← Answer.given_got, ← List.append_nil s.kept] at tells
    exact tells
  · intro hp
    rw [hp] at becomes
    exact hs.promised becomes.of_pending

/-- Where nobody waits who could go, a release makes no difference. -/
theorem Sound.release (hs : s.Sound) {h : Handoff α}
    (slot : h.slot ≠ .pending → s.handoff.slot ≠ .pending)
    (waiting : h.waiting = s.handoff.waiting) : h.release = h :=
  release_idle fun hne => waiting.trans (hs.waiting (slot hne))

theorem Sound.taken (hs : s.Sound) : s.handoff.take.2.release = s.handoff.take.2 := by
  refine hs.release ?_ rfl
  intro hne hp
  exact hne (by simp [Handoff.take, hp, Slot.take])

theorem Sound.await (hs : s.Sound) :
    s.Admits { s.handoff with waiting := s.handoff.waiting + 1 } [] :=
  hs.admits rfl rfl hs.released ⟨rfl, rfl⟩ nofun

/-- Whoever waits joins the others first; a settled slot lets it go with them. -/
theorem record_await (s : History α) : s.record (s.handoff.await 1) [] =
    s.record { s.handoff with waiting := s.handoff.waiting + 1 }.release [] := rfl

theorem Sound.look (hs : s.Sound) (told : List (Answer α)) (fresh : ∀ x ∈ told, x.Fresh s.handoff.slot)
    (silent : told.filterMap Answer.kept? = [] ∧ told.filterMap Answer.given? = []) :
    ∃ h told', s.record s.handoff told = s.record h.release told' ∧ s.Admits h told' := by
  refine ⟨s.handoff, told, ?_, hs.admits rfl rfl hs.released silent fresh⟩
  rw [hs.release id rfl]

theorem Sound.asked (hs : s.Sound) (q : Query) :
    ∃ h told, s.asked q = s.record h.release told ∧ s.Admits h told := by
  have taking : ∃ h told, s.record s.handoff.take.2 [.got s.handoff.take.1] =
      s.record h.release told ∧ s.Admits h told :=
    ⟨_, _, by rw [hs.taken], hs.take⟩
  cases q with
  | take => exact taking
  | get =>
    unfold History.asked
    cases s.handoff.slot.settled? with
    | none => exact ⟨_, _, record_await s, hs.await⟩
    | some st => exact taking
  | wait => exact ⟨_, _, record_await s, hs.await⟩
  | poll | isValid | isReady => exact hs.look _ (by simp [Answer.Fresh]) ⟨rfl, rfl⟩

/-- A turn is void, or leaves something that a sound history admits. -/
theorem Sound.turn (hs : s.Sound) (t : Turn α) : s.turn t = s ∨
    ∃ h told, s.turn t = s.record h.release told ∧ s.Admits h told := by
  have another : ∃ h told, s.record { s.handoff with holders := s.handoff.holders + 1 } [] =
      s.record h.release told ∧ s.Admits h told := by
    refine ⟨{ s.handoff with holders := s.handoff.holders + 1 }, [], ?_,
      hs.admits rfl rfl hs.released ⟨rfl, rfl⟩ nofun⟩
    have still : { s.handoff with holders := s.handoff.holders + 1 }.release =
        { s.handoff with holders := s.handoff.holders + 1 } := hs.release id rfl
    rw [still]
  cases t with
  | set a =>
    cases hp : s.handoff.promised with
    | false => exact .inl (by simp [History.turn, Handoff.set, hp])
    | true => exact .inr ⟨_, _, s.turn_set a hp, hs.set a hp⟩
  | dropPromise =>
    cases hp : s.handoff.promised with
    | true => exact .inr ⟨_, _, s.turn_drop hp, hs.drop⟩
    | false =>
      have hturn : s.turn .dropPromise = s.record s.handoff [] := by
        simp [History.turn, dropPromise, hp]
      rw [hturn]
      exact .inr (hs.look [] nofun ⟨rfl, rfl⟩)
  | future =>
    cases hp : s.handoff.promised with
    | false => exact .inl (by simp [History.turn, hp])
    | true =>
      obtain ⟨h, told, hrecord, ha⟩ := another
      exact .inr ⟨h, told, (if_pos hp).trans hrecord, ha⟩
  | clone f =>
    by_cases hf : f < s.handoff.holders
    · obtain ⟨h, told, hrecord, ha⟩ := another
      exact .inr ⟨h, told, (if_pos hf).trans hrecord, ha⟩
    · exact .inl (if_neg hf)
  | ask f q =>
    by_cases hf : f < s.handoff.holders
    · obtain ⟨h, told, hasked, ha⟩ := hs.asked q
      exact .inr ⟨h, told, (if_pos hf).trans hasked, ha⟩
    · exact .inl (if_neg hf)
  | giveUp =>
    by_cases hw : 0 < s.handoff.waiting
    · have hp : s.handoff.slot = .pending := by
        refine Classical.byContradiction fun hne => ?_
        rw [hs.waiting hne] at hw
        cases hw
      have still : { s.handoff with waiting := s.handoff.waiting - 1 }.release =
          { s.handoff with waiting := s.handoff.waiting - 1 } := release_pending hp
      refine .inr ⟨{ s.handoff with waiting := s.handoff.waiting - 1 }, [.status .timeout], ?_,
        hs.admits rfl rfl hs.released ⟨rfl, rfl⟩ ?_⟩
      · rw [still]
        exact if_pos hw
      · simp [Answer.Fresh, hp, Slot.status, Slot.settled?]
    · exact .inl (if_neg hw)

theorem Sound.after (hs : s.Sound) (t : Turn α) :
    (s.turn t).Sound ∧ s.handoff.slot.Becomes (s.turn t).handoff.slot := by
  rcases hs.turn t with hsame | ⟨h, told, ht, ha⟩
  · rw [hsame]
    exact ⟨hs, .same _⟩
  · rw [ht]
    refine ⟨hs.record ha, ?_⟩
    cases hst : h.slot.settled? with
    | none =>
      rw [release_pending (Slot.pending_of_unsettled hst), record_told ha.released]
      exact ha.becomes
    | some st =>
      rw [record_settled _ hst ha.released]
      exact ha.becomes

theorem Sound.run (hs : s.Sound) (ts : List (Turn α)) :
    (s.run ts).Sound ∧ s.handoff.slot.Becomes (s.run ts).handoff.slot := by
  induction ts generalizing s with
  | nil => exact ⟨hs, .same _⟩
  | cons t ts ih =>
    obtain ⟨hs', hstep⟩ := hs.after t
    obtain ⟨hs'', hrest⟩ := ih hs'
    exact ⟨hs'', hstep.trans hrest⟩

theorem sound_new : ({} : History α).Sound :=
  ⟨.pending, fun _ => rfl, nofun, fun h => absurd rfl h, rfl, nofun, .nil⟩

variable {ts : List (Turn α)}

theorem Sound.unset (hs : s.Sound) (hp : s.handoff.promised = true) (hk : s.kept = []) :
    s.handoff.slot = .pending := by
  have tells := hs.tells
  rw [hk] at tells
  rcases tells.unkept with hpending | hbroken
  · exact hpending
  · rw [hs.broken hbroken] at hp
    cases hp

/-- The first result is kept, and everyone who waited is told. -/
theorem Sound.set_first (hs : s.Sound) (hp : s.handoff.promised = true) (hk : s.kept = []) (a : α) :
    s.turn (.set a) = ⟨{ s.handoff with slot := .ready a, waiting := 0 },
      s.log ++ .stored a true :: List.replicate s.handoff.waiting (.status .ready)⟩ := by
  rw [turn_set s a hp, hs.unset hp hk]
  exact record_settled _ rfl hs.released

/-- A promise that goes away unset breaks its slot, and everyone who waited is told. -/
theorem Sound.drop_unset (hs : s.Sound) (hp : s.handoff.promised = true) (hk : s.kept = []) :
    s.turn .dropPromise = ⟨{ s.handoff with slot := .broken, promised := false, waiting := 0 },
      s.log ++ List.replicate s.handoff.waiting (.status .broken)⟩ := by
  rw [turn_drop s hp, hs.unset hp hk]
  exact record_settled _ rfl hs.released

/-- A slot is ready from when its result was kept until it is given. -/
theorem Sound.isReady (hs : s.Sound) {f : Nat} (hf : f < s.handoff.holders) :
    ∃ b, s.turn (.ask f .isReady) = ⟨s.handoff, s.log ++ [.ready b]⟩ ∧
      (b = true ↔ s.kept ≠ [] ∧ s.given = []) :=
  ⟨s.handoff.slot.isReady, (if_pos hf).trans (record_told hs.released), hs.tells.isReady_iff⟩

theorem Sound.set_again (hs : s.Sound) (hp : s.handoff.promised = true) (hk : s.kept ≠ []) (a : α) :
    s.turn (.set a) = ⟨s.handoff, s.log ++ [.stored a false]⟩ := by
  have hne := hs.tells.settled_of_kept hk
  rw [turn_set s a hp, Slot.set_of_settled hne, hs.release id rfl]
  exact record_told hs.released

theorem Sound.drop_set (hs : s.Sound) (hp : s.handoff.promised = true) (hk : s.kept ≠ []) :
    s.turn .dropPromise = ⟨{ s.handoff with promised := false }, s.log⟩ := by
  have hne := hs.tells.settled_of_kept hk
  have still : { s.handoff with promised := false }.release = { s.handoff with promised := false } :=
    hs.release (fun _ => hne) rfl
  rw [turn_drop s hp, Slot.abandon_of_settled hne, still, ← List.append_nil s.log]
  exact record_told hs.released

/-- The first to ask for a result that was kept has it, and nobody after it. -/
theorem Sound.take_kept (hs : s.Sound) {a : α} (hk : s.kept = [a]) (hg : s.given = [])
    {f : Nat} (hf : f < s.handoff.holders) {q : Query} (hq : q = .take ∨ q = .get) :
    s.turn (.ask f q) = ⟨{ s.handoff with slot := .taken }, s.log ++ [.got (some a)]⟩ := by
  have tells := hs.tells
  rw [hk, hg] at tells
  have hslot : s.handoff.slot = .ready a := tells.ready_of_kept
  have hasked : s.asked q = s.record s.handoff.take.2 [.got s.handoff.take.1] := by
    rcases hq with rfl | rfl
    · rfl
    · simp [History.asked, hslot, Slot.settled?]
  rw [show s.turn (.ask f q) = s.asked q from if_pos hf, hasked]
  simp [Handoff.take, hslot, Slot.take, record_told, hs.released]

/-- Where there is nothing to take, whoever takes it goes away with nothing. -/
theorem Sound.take_nothing (hs : s.Sound) (hk : s.kept = [] ∨ s.given ≠ []) {f : Nat}
    (hf : f < s.handoff.holders) :
    s.turn (.ask f .take) = ⟨s.handoff, s.log ++ [.got none]⟩ := by
  have hturn : s.turn (.ask f .take) = s.record s.handoff.take.2 [.got s.handoff.take.1] :=
    if_pos hf
  rw [hturn, Handoff.take, hs.tells.take_nothing hk]
  exact record_told hs.released

/-- Nobody waits for a slot that is settled. -/
theorem Sound.wait_settled (hs : s.Sound) {st : Status} (hst : s.handoff.slot.settled? = some st)
    {f : Nat} (hf : f < s.handoff.holders) :
    s.turn (.ask f .wait) = ⟨s.handoff, s.log ++ [.status st]⟩ ∧
      s.turn (.ask f .poll) = ⟨s.handoff, s.log ++ [.status st]⟩ := by
  have hw := hs.waiting (Slot.ne_pending_of_settled hst)
  constructor
  · have hturn : s.turn (.ask f .wait) = s.record (s.handoff.await 1) [] := if_pos hf
    have hrecord := record_settled (s := s)
      (h := { s.handoff with waiting := s.handoff.waiting + 1 }) [] hst hs.released
    rw [hturn, record_await, hrecord, hw, ← with_nobody_waiting hw]
    rfl
  · have hturn : s.turn (.ask f .poll) = s.record s.handoff [.status s.handoff.slot.status] :=
      if_pos hf
    rw [hturn, Slot.status_of_settled hst]
    exact record_told hs.released

end History

/-- However a promise and its futures are used, one result is kept at most, and the first consumer
that asks for it gets it and no other; it is ready from when it was kept until it is given. Whoever
is told that the slot is ready or broken agrees with all who were told so before, and a future that
is no longer valid stays so. The first result, or the end of a promise without one, settles the slot
for good and lets everyone go who waits for it; a later result, and the end of the promise after it,
change nothing. -/
theorem settles_and_gives_once (ts : List (Turn α)) :
    let s := ({} : History α).run ts
    (s.kept.length ≤ 1 ∧ s.given <+: s.kept) ∧
    (∀ f, f < s.handoff.holders →
      (∀ a, s.kept = [a] → s.given = [] → ∀ q, q = .take ∨ q = .get →
        s.turn (.ask f q) = ⟨{ s.handoff with slot := .taken }, s.log ++ [.got (some a)]⟩) ∧
      (s.kept = [] ∨ s.given ≠ [] →
        s.turn (.ask f .take) = ⟨s.handoff, s.log ++ [.got none]⟩)) ∧
    (∀ f, f < s.handoff.holders → ∃ b, s.turn (.ask f .isReady) =
      ⟨s.handoff, s.log ++ [.ready b]⟩ ∧ (b = true ↔ s.kept ≠ [] ∧ s.given = [])) ∧
    s.statuses.Pairwise (fun st st' => st ≠ .timeout → st' = st) ∧
    s.validities.Pairwise (fun b b' => b = false → b' = false) ∧
    (s.handoff.promised = true → s.kept = [] →
      (∀ a, s.turn (.set a) = ⟨{ s.handoff with slot := .ready a, waiting := 0 },
        s.log ++ .stored a true :: List.replicate s.handoff.waiting (.status .ready)⟩) ∧
      s.turn .dropPromise = ⟨{ s.handoff with slot := .broken, promised := false, waiting := 0 },
        s.log ++ List.replicate s.handoff.waiting (.status .broken)⟩ ∧
      ∀ ts', ((s.turn .dropPromise).run ts').handoff.slot = .broken) ∧
    (s.handoff.promised = true → s.kept ≠ [] →
      (∀ a, s.turn (.set a) = ⟨s.handoff, s.log ++ [.stored a false]⟩) ∧
      s.turn .dropPromise = ⟨{ s.handoff with promised := false }, s.log⟩) ∧
    (∀ st, s.handoff.slot.settled? = some st → ∀ ts' f, let s' := s.run ts'
      f < s'.handoff.holders →
        s'.turn (.ask f .wait) = ⟨s'.handoff, s'.log ++ [.status st]⟩ ∧
        s'.turn (.ask f .poll) = ⟨s'.handoff, s'.log ++ [.status st]⟩) := by
  intro s
  have hs : s.Sound := (History.sound_new.run ts).1
  refine ⟨⟨hs.tells.kept_once, hs.tells.given_kept⟩, fun f hf => ⟨?_, fun hk => hs.take_nothing hk hf⟩,
    fun f hf => hs.isReady hf, ?_, ?_, ?_, ?_, ?_⟩
  · exact fun a hk hg q hq => hs.take_kept hk hg hf hq
  · refine List.pairwise_filterMap.2 (hs.agrees.imp ?_)
    intro x y agrees st hst st' hst'
    cases x <;> cases hst
    cases y <;> cases hst'
    exact agrees
  · refine List.pairwise_filterMap.2 (hs.agrees.imp ?_)
    intro x y agrees b hb b' hb'
    cases x <;> cases hb
    cases y <;> cases hb'
    exact agrees
  · intro hp hk
    refine ⟨hs.set_first hp hk, hs.drop_unset hp hk, ?_⟩
    intro ts'
    have becomes := ((hs.after .dropPromise).1.run ts').2
    rw [hs.drop_unset hp hk] at becomes ⊢
    exact becomes.of_broken
  · exact fun hp hk => ⟨hs.set_again hp hk, hs.drop_set hp hk⟩
  · intro st hst ts' f s' hf
    obtain ⟨hs', becomes⟩ := hs.run ts'
    exact hs'.wait_settled (becomes.settled? hst) hf

/-- Three futures, of which two consumers wait; one of them has had enough. -/
def crowded : List (Turn Nat) :=
  [.clone 0, .future, .ask 1 .wait, .ask 0 .poll, .ask 2 .get, .giveUp, .ask 1 .isValid]

theorem settles_and_gives_once_crowded :
    let s := ({} : History Nat).run crowded
    let s' := ({} : History Nat).run (crowded ++ [.set 7])
    s.handoff.promised = true ∧ s.kept = [] ∧ (s.turn (.set 7)).log =
      [.status .timeout, .status .timeout, .valid true, .stored 7 true, .status .ready] ∧
    2 < s'.handoff.holders ∧ s'.kept = [7] ∧ s'.given = [] ∧
      (s'.turn (.ask 2 .get)).log = s'.log ++ [.got (some 7)] := by
  have unset := (settles_and_gives_once crowded).2.2.2.2.2.1
  have offered := (settles_and_gives_once (crowded ++ [.set 7])).2.1 2 (by decide)
  refine ⟨rfl, rfl, ?_, by decide, rfl, rfl, ?_⟩
  · rw [(unset rfl rfl).1 7]
    rfl
  · exact congrArg History.log (offered.1 7 rfl rfl .get (.inr rfl))

end Handoff
end QueryPool
