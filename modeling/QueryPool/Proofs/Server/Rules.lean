import Mathlib.Data.List.Basic
import Mathlib.Data.List.Induction
import QueryPool.Server.Basic

namespace QueryPool

namespace Rule

variable {text : String} {rules : List Rule} {i : Nat}

/-- The place of the rule that a text is charged to. -/
def payer? (text : String) (rules : List Rule) : Option Nat := rules.findIdx? (·.charges text)

/-- A rule after so many firings. -/
def spent (n : Nat) (r : Rule) : Rule := { r with left := r.left.map (· - n) }

/-- The first of the places, as many as there are firings. -/
def affords (r : Rule) (places : List Nat) : List Nat :=
  match r.left with
  | none => places
  | some c => places.take c

theorem affords_all {r : Rule} (h : r.left = none) (places : List Nat) :
    r.affords places = places := by
  rw [affords, h]

theorem affords_take {r : Rule} {c : Nat} (h : r.left = some c) (places : List Nat) :
    r.affords places = places.take c := by
  rw [affords, h]

theorem affords_more {r : Rule} {places : List Nat} (k : Nat)
    (left : ∀ c ∈ r.left, (r.affords places).length < c) :
    r.affords (places ++ [k]) = r.affords places ++ [k] := by
  cases hl : r.left with
  | none => rw [affords_all hl, affords_all hl]
  | some c =>
    have fewer := left c hl
    rw [affords_take hl, List.length_take] at fewer
    have more : (places ++ [k]).length ≤ c := by
      rw [List.length_append, List.length_singleton]
      omega
    rw [affords_take hl, affords_take hl, List.take_of_length_le more,
      List.take_of_length_le (by omega)]

theorem affords_full {r : Rule} {places : List Nat} (k : Nat)
    (done : ¬ ∀ c ∈ r.left, (r.affords places).length < c) :
    r.affords (places ++ [k]) = r.affords places := by
  cases hl : r.left with
  | none => simp [hl] at done
  | some c =>
    have full : c ≤ min c places.length := by
      simpa [hl, affords_take hl] using done
    have enough : c ≤ places.length := by omega
    rw [affords_take hl, affords_take hl, List.take_append_of_le_length enough]

theorem charge_eq (text : String) (rules : List Rule) :
    charge text rules = (payer? text rules).bind fun i =>
      rules[i]?.map fun r => (r.code, rules.modify i fire) := by
  induction rules with
  | nil => rfl
  | cons r rules ih =>
    rw [charge, payer?, List.findIdx?_cons]
    cases r.charges text with
    | true => rfl
    | false =>
      rw [if_neg Bool.false_ne_true, if_neg Bool.false_ne_true, ih, payer?]
      cases rules.findIdx? (·.charges text) with
      | none => rfl
      | some i =>
        simp only [Option.map_some, Option.bind_some, List.getElem?_cons_succ, Option.map_map,
          List.modify_succ_cons]
        rfl

theorem payer?_eq_some_iff : payer? text rules = some i ↔
    (∃ r, rules[i]? = some r ∧ r.charges text = true) ∧
      ∀ j < i, ∀ r, rules[j]? = some r → r.charges text = false := by
  rw [payer?, List.findIdx?_eq_some_iff_getElem]
  constructor
  · rintro ⟨hi, charged, first⟩
    refine ⟨⟨_, List.getElem?_eq_getElem hi, charged⟩, fun j hj r hr => ?_⟩
    obtain ⟨_, rfl⟩ := List.getElem?_eq_some_iff.1 hr
    exact Bool.eq_false_iff.2 (first j hj)
  · rintro ⟨⟨r, hr, charged⟩, first⟩
    obtain ⟨hi, rfl⟩ := List.getElem?_eq_some_iff.1 hr
    refine ⟨hi, charged, fun j hj => ?_⟩
    rw [first j hj _ (List.getElem?_eq_getElem (Nat.lt_trans hj hi))]
    exact Bool.false_ne_true

theorem payer?_eq_none_iff : payer? text rules = none ↔
    ∀ (i : Nat) (r : Rule), rules[i]? = some r → r.charges text = false := by
  rw [payer?, List.findIdx?_eq_none_iff]
  constructor
  · exact fun h i r hr => h r (List.mem_of_getElem? hr)
  · intro h r hr
    obtain ⟨i, hi⟩ := List.mem_iff_getElem?.1 hr
    exact h i r hi

theorem spent_zero (r : Rule) : r.spent 0 = r := by
  obtain ⟨_, _, left⟩ := r
  cases left <;> rfl

theorem fire_spent (n : Nat) (r : Rule) : (r.spent n).fire = r.spent (n + 1) := by
  obtain ⟨_, _, left⟩ := r
  cases left <;> rfl

theorem charges_spent {n : Nat} {r : Rule} : (r.spent n).charges text = true ↔
    Text.occurs r.pattern text = true ∧ ∀ c ∈ r.left, n < c := by
  have live : (r.spent n).isLive = true ↔ ∀ c ∈ r.left, n < c := by
    cases hl : r.left with
    | none => simp [isLive, spent, hl]
    | some c =>
      have : (c - n ≠ 0) ↔ n < c := by omega
      simpa [isLive, spent, hl] using this
  rw [charges, Bool.and_eq_true, live]
  rfl

end Rule

namespace Server

/-- What is done with a script: a rule is added, or a text is checked. -/
inductive Turn where
  | rule (r : Rule)
  | check (text : String)

namespace Turn

def rule? : Turn → Option Rule
  | rule r => some r
  | check _ => none

def text? : Turn → Option String
  | rule _ => none
  | check text => some text

end Turn

/-- A checked text, and the place of the rule that it was charged to. -/
structure Verdict where
  text : String
  payer : Option Nat

/-- Whether a rule covers the text and no rule before it paid. -/
def Verdict.offers (v : Verdict) (i : Nat) (r : Rule) : Bool :=
  Text.occurs r.pattern v.text && v.payer.all (i ≤ ·)

theorem Verdict.offers_iff {v : Verdict} {i : Nat} {r : Rule} : v.offers i r = true ↔
    Text.occurs r.pattern v.text = true ∧ ∀ j, v.payer = some j → i ≤ j := by
  simp only [offers, Bool.and_eq_true, Option.all_eq_true, decide_eq_true_eq]

/-- A server and the checks it has made. -/
structure Trial where
  server : Server
  log : List Verdict := []

/-- At which of the checks a rule fired. -/
def firedAt (log : List Verdict) (i : Nat) : List Nat := log.findIdxs (·.payer == some i)

/-- At which of the checks a rule had to pay if it could. -/
def offeredAt (log : List Verdict) (i : Nat) (r : Rule) : List Nat :=
  log.findIdxs (·.offers i r)

/-- Whether a rule covers a text and has fired less often than it may. -/
def Open (scripted : List Rule) (log : List Verdict) (text : String) (i : Nat) : Prop :=
  ∃ r ∈ scripted[i]?, Text.occurs r.pattern text = true ∧ ∀ c ∈ r.left, (firedAt log i).length < c

instance (scripted : List Rule) (log : List Verdict) (text : String) (i : Nat) :
    Decidable (Open scripted log text i) :=
  inferInstanceAs (Decidable (∃ r ∈ scripted[i]?, _ ∧ _))

theorem check_spared {s : Server} {text : String} (h : Rule.charge text s.rules = none) :
    s.check text = (.ok (), s) := by
  simp only [check, h]

namespace Trial

def turn (t : Trial) : Turn → Trial
  | .rule r => { t with server := t.server.addRule r }
  | .check text =>
    ⟨(t.server.check text).2, t.log ++ [⟨text, Rule.payer? text t.server.rules⟩]⟩

def run (t : Trial) (ts : List Turn) : Trial := ts.foldl turn t

variable {t : Trial} {scripted : List Rule} {text : String} {i : Nat}

/-- Every rule is as it was scripted but for its own firings. -/
structure Accounted (scripted : List Rule) (t : Trial) : Prop where
  rules : t.server.rules = scripted.mapIdx fun i r => r.spent (firedAt t.log i).length
  payers : ∀ v ∈ t.log, ∀ i ∈ v.payer, i < scripted.length

theorem firedAt_concat (log : List Verdict) (v : Verdict) (i : Nat) :
    firedAt (log ++ [v]) i = firedAt log i ++ if v.payer = some i then [log.length] else [] := by
  rw [firedAt, List.findIdxs_append, List.findIdxs_singleton, Nat.zero_add, firedAt]
  simp only [beq_iff_eq]

theorem offeredAt_concat (log : List Verdict) (v : Verdict) (i : Nat) (r : Rule) :
    offeredAt (log ++ [v]) i r =
      offeredAt log i r ++ if v.offers i r = true then [log.length] else [] := by
  rw [offeredAt, List.findIdxs_append, List.findIdxs_singleton, Nat.zero_add, offeredAt]

theorem check_passed (passed : Rule.payer? text t.server.rules = none) :
    t.server.check text = (.ok (), t.server) :=
  check_spared (by rw [Rule.charge_eq, passed, Option.bind_none])

theorem turn_passed (passed : Rule.payer? text t.server.rules = none) :
    t.turn (.check text) = ⟨t.server, t.log ++ [⟨text, none⟩]⟩ := by
  rw [turn, check_passed passed, passed]

namespace Accounted

theorem charges_iff (h : t.Accounted scripted) (text : String) (i : Nat) :
    (∃ r, t.server.rules[i]? = some r ∧ r.charges text = true) ↔ Open scripted t.log text i := by
  rw [h.rules, List.getElem?_mapIdx]
  constructor
  · rintro ⟨r, hr, charged⟩
    obtain ⟨q, hq, rfl⟩ := Option.map_eq_some_iff.1 hr
    exact ⟨q, hq, Rule.charges_spent.1 charged⟩
  · rintro ⟨q, hq, charged⟩
    exact ⟨_, by rw [hq]; rfl, Rule.charges_spent.2 charged⟩

theorem not_charges_iff (h : t.Accounted scripted) (text : String) (i : Nat) :
    (∀ r, t.server.rules[i]? = some r → r.charges text = false) ↔
      ¬ Open scripted t.log text i := by
  rw [← h.charges_iff, not_exists]
  simp only [not_and, Bool.not_eq_true]

/-- The first open rule pays. -/
theorem payer?_eq_some_iff (h : t.Accounted scripted) :
    Rule.payer? text t.server.rules = some i ↔
      Open scripted t.log text i ∧ ∀ j < i, ¬ Open scripted t.log text j := by
  simp only [Rule.payer?_eq_some_iff, h.charges_iff, h.not_charges_iff]

theorem payer?_eq_none_iff (h : t.Accounted scripted) :
    Rule.payer? text t.server.rules = none ↔ ∀ i, ¬ Open scripted t.log text i := by
  simp only [Rule.payer?_eq_none_iff, h.not_charges_iff]

theorem check_charged (h : t.Accounted scripted) {r : Rule} (hr : scripted[i]? = some r)
    (paid : Rule.payer? text t.server.rules = some i) :
    t.server.check text = (.error ⟨r.code, s!"injected failure for '{text}'"⟩,
      { t.server with rules := t.server.rules.modify i Rule.fire }) := by
  have now : t.server.rules[i]? = some (r.spent (firedAt t.log i).length) := by
    rw [h.rules, List.getElem?_mapIdx, hr]
    rfl
  simp only [Server.check, Rule.charge_eq, paid, Option.bind_some, now, Option.map_some]
  rfl

theorem turn_charged (h : t.Accounted scripted) (paid : Rule.payer? text t.server.rules = some i) :
    t.turn (.check text) =
      ⟨{ t.server with rules := t.server.rules.modify i Rule.fire }, t.log ++ [⟨text, some i⟩]⟩ := by
  obtain ⟨⟨r, hr, -⟩, -⟩ := h.payer?_eq_some_iff.1 paid
  rw [turn, h.check_charged hr paid, paid]

theorem rule (h : t.Accounted scripted) (r : Rule) :
    (t.turn (.rule r)).Accounted (scripted ++ [r]) where
  rules := by
    have unfired : firedAt t.log scripted.length = [] := by
      refine List.findIdxs_eq_nil_iff.2 fun v hv => ?_
      rw [beq_eq_false_iff_ne]
      intro paid
      exact Nat.lt_irrefl _ (h.payers v hv _ paid)
    show t.server.rules ++ [r] = _
    rw [List.mapIdx_concat, h.rules, turn, unfired, List.length_nil, Rule.spent_zero]
  payers v hv i hi := by
    have := h.payers v hv i hi
    rw [List.length_append]
    omega

theorem check (h : t.Accounted scripted) (text : String) :
    (t.turn (.check text)).Accounted scripted where
  rules := by
    cases paid : Rule.payer? text t.server.rules with
    | none =>
      simp only [turn_passed paid, firedAt_concat, reduceCtorEq, if_false, List.append_nil]
      exact h.rules
    | some i =>
      rw [h.turn_charged paid]
      refine List.ext_getElem? fun j => ?_
      simp only [firedAt_concat, Option.some.injEq, List.getElem?_modify, List.getElem?_mapIdx,
        h.rules]
      cases scripted[j]? with
      | none => rfl
      | some q =>
        by_cases hij : i = j
        · simp [hij, Rule.fire_spent]
        · simp [hij]
  payers v hv i hi := by
    rcases List.mem_append.1 hv with old | new
    · exact h.payers v old i hi
    · cases List.mem_singleton.1 new
      obtain ⟨⟨r, hr, -⟩, -⟩ := h.payer?_eq_some_iff.1 hi
      exact (List.getElem?_eq_some_iff.1 hr).1

end Accounted

/-- A rule has fired at the first checks that it had to pay, as often as it could. -/
def Rationed (i : Nat) (r : Rule) (log : List Verdict) : Prop :=
  firedAt log i = r.affords (offeredAt log i r)

theorem Rationed.check {r : Rule} (hr : Rationed i r t.log) (h : t.Accounted scripted)
    (here : scripted[i]? = some r) (text : String) :
    Rationed i r (t.turn (.check text)).log := by
  have open_iff : Open scripted t.log text i ↔ Text.occurs r.pattern text = true ∧
      ∀ c ∈ r.left, (r.affords (offeredAt t.log i r)).length < c := by
    rw [← hr, Open, here]
    simp only [Option.mem_some, exists_eq_left']
  show firedAt (t.log ++ [_]) i = r.affords (offeredAt (t.log ++ [_]) i r)
  rw [firedAt_concat, offeredAt_concat, hr]
  by_cases pays : Rule.payer? text t.server.rules = some i
  · obtain ⟨covered, left⟩ := open_iff.1 (h.payer?_eq_some_iff.1 pays).1
    have offered : (Verdict.mk text (Rule.payer? text t.server.rules)).offers i r = true := by
      refine Verdict.offers_iff.2 ⟨covered, fun j hj => ?_⟩
      exact Nat.le_of_eq (Option.some.inj (pays.symm.trans hj))
    rw [if_pos pays, if_pos offered, Rule.affords_more _ left]
  · rw [if_neg pays, List.append_nil]
    by_cases offered : (Verdict.mk text (Rule.payer? text t.server.rules)).offers i r = true
    · obtain ⟨covered, later⟩ := Verdict.offers_iff.1 offered
      -- nobody pays, or a later rule does, so this one could not
      have shut : ¬ Open scripted t.log text i := by
        cases paid : Rule.payer? text t.server.rules with
        | none => exact h.payer?_eq_none_iff.1 paid i
        | some j =>
          have : i ≤ j := later j paid
          have : i ≠ j := fun same => pays (same ▸ paid)
          exact (h.payer?_eq_some_iff.1 paid).2 i (by omega)
      rw [if_pos offered, Rule.affords_full _ fun left => shut (open_iff.2 ⟨covered, left⟩)]
    · rw [if_neg offered, List.append_nil]

theorem Rationed.turn {r : Rule} (hr : Rationed i r t.log) (h : t.Accounted scripted)
    (here : scripted[i]? = some r) (u : Turn) : Rationed i r (t.turn u).log := by
  cases u with
  | rule q => exact hr
  | check text => exact hr.check h here text

theorem Accounted.turn (h : t.Accounted scripted) (u : Turn) :
    (t.turn u).Accounted (scripted ++ u.rule?.toList) := by
  cases u with
  | rule r => exact h.rule r
  | check text =>
    rw [Turn.rule?, Option.toList_none, List.append_nil]
    exact h.check text

theorem run_concat (t : Trial) (us : List Turn) (u : Turn) : t.run (us ++ [u]) = (t.run us).turn u := by
  simp [run]

theorem accounted_run (s : Server) (us : List Turn) :
    ((Trial.mk s []).run us).Accounted (s.rules ++ us.filterMap Turn.rule?) := by
  induction us using List.reverseRecOn with
  | nil =>
    rw [List.filterMap_nil, List.append_nil]
    refine ⟨?_, nofun⟩
    refine List.ext_getElem? fun i => ?_
    show s.rules[i]? = (s.rules.mapIdx fun i r => r.spent 0)[i]?
    rw [List.getElem?_mapIdx]
    cases s.rules[i]? with
    | none => rfl
    | some r => exact congrArg some r.spent_zero.symm
  | append_singleton us u ih =>
    have added : [u].filterMap Turn.rule? = u.rule?.toList := by cases u <;> rfl
    rw [run_concat, List.filterMap_append, added, ← List.append_assoc]
    exact ih.turn u

theorem rationed_run (s : Server) {r : Rule} (hr : s.rules[i]? = some r) (us : List Turn) :
    Rationed i r ((Trial.mk s []).run us).log := by
  induction us using List.reverseRecOn with
  | nil =>
    show [] = r.affords []
    cases hl : r.left with
    | none => rw [Rule.affords_all hl]
    | some c => rw [Rule.affords_take hl, List.take_nil]
  | append_singleton us u ih =>
    have here : (s.rules ++ us.filterMap Turn.rule?)[i]? = some r := by
      rw [List.getElem?_append_left (List.getElem?_eq_some_iff.1 hr).1, hr]
    rw [run_concat]
    exact ih.turn (accounted_run s us) here u

theorem texts_run (s : Server) (us : List Turn) :
    ((Trial.mk s []).run us).log.map Verdict.text = us.filterMap Turn.text? := by
  induction us using List.reverseRecOn with
  | nil => rfl
  | append_singleton us u ih =>
    rw [run_concat, List.filterMap_append, ← ih]
    cases u with
    | rule r => exact (List.append_nil _).symm
    | check text => rw [turn, List.map_append]; rfl

end Trial

open Trial

/-- Whatever is added to a script and checked on it, every rule has lost its own firings and nothing
else. The next check is charged to the first rule that covers its text and has fired less often than
it may; it fails with that rule's code and costs that rule one firing. If there is no such rule it
passes. And every rule that was there from the start has fired at the first checks whose text it
covers and no rule before it paid for, as many of them as it has firings; a rule that is added later
is one that the rest of the run starts with. -/
theorem rules_fire_as_scripted (s : Server) (us : List Turn) :
    let t := (Trial.mk s []).run us
    let scripted := s.rules ++ us.filterMap Turn.rule?
    t.log.map Verdict.text = us.filterMap Turn.text? ∧
    t.server.rules = scripted.mapIdx (fun i r => r.spent (firedAt t.log i).length) ∧
    (∀ text i r, scripted[i]? = some r → Open scripted t.log text i →
      (∀ j < i, ¬ Open scripted t.log text j) →
      t.server.check text = (.error ⟨r.code, s!"injected failure for '{text}'"⟩,
        { t.server with rules := t.server.rules.modify i Rule.fire }) ∧
      (t.turn (.check text)).log = t.log ++ [⟨text, some i⟩]) ∧
    (∀ text, (∀ i, ¬ Open scripted t.log text i) →
      t.server.check text = (.ok (), t.server) ∧
      (t.turn (.check text)).log = t.log ++ [⟨text, none⟩]) ∧
    ∀ i r, s.rules[i]? = some r → firedAt t.log i = r.affords (offeredAt t.log i r) := by
  intro t scripted
  have accounted : t.Accounted scripted := accounted_run s us
  refine ⟨texts_run s us, accounted.rules, fun text i r hr first others => ?_, fun text none => ?_,
    fun i r hr => rationed_run s hr us⟩
  · have paid := accounted.payer?_eq_some_iff.2 ⟨first, others⟩
    exact ⟨accounted.check_charged hr paid, by rw [accounted.turn_charged paid]⟩
  · have passed := accounted.payer?_eq_none_iff.2 none
    exact ⟨check_passed passed, by rw [turn_passed passed]⟩

theorem rules_fire_as_scripted_competing :
    let first : Rule := ⟨"a", 1205, some 1⟩
    let second : Rule := ⟨"", 2013, some 2⟩
    let third : Rule := ⟨"b", 1105, none⟩
    let late : Rule := ⟨"", 1064, some 0⟩
    let us : List Turn := [.check "ab", .check "ab", .rule late, .check "b", .check "b"]
    let t := (Trial.mk { rules := [first, second, third] } []).run us
    (firedAt t.log 1 = [1, 2] ∧ offeredAt t.log 1 second = [1, 2, 3]) ∧
      (t.server.check "b").1 = .error ⟨1105, "injected failure for 'b'"⟩ ∧
      (t.server.check "c").1 = .ok () := by
  intro first second third late us t
  obtain ⟨-, -, charged, passed, rationed⟩ :=
    rules_fire_as_scripted { rules := [first, second, third] } us
  have offered : offeredAt t.log 1 second = [1, 2, 3] := by decide
  have fired : firedAt t.log 1 = [1, 2] := by
    have first := rationed 1 second rfl
    rwa [offered] at first
  have opens : Open [first, second, third, late] t.log "b" 2 ∧
      ∀ i < 2, ¬ Open [first, second, third, late] t.log "b" i := by decide
  have shut : ∀ i, ¬ Open [first, second, third, late] t.log "c" i := by
    have known : ∀ i < 4, ¬ Open [first, second, third, late] t.log "c" i := by decide
    intro i hi
    obtain ⟨r, hr, -⟩ := id hi
    exact known i (List.getElem?_eq_some_iff.1 hr).1 hi
  refine ⟨⟨fired, offered⟩, ?_, congrArg Prod.fst (passed "c" shut).1⟩
  exact congrArg Prod.fst (charged "b" 2 third rfl opens.1 opens.2).1

end Server
end QueryPool
