import QueryPool.Proofs.Server.Calls
import QueryPool.Proofs.Server.Rules

namespace QueryPool

namespace Rule

variable {text : String} {texts texts' : List String} {rules rules' : List Rule} {r : Rule}
  {code i : Nat}

/-- Rules that can still fire let a call lose a race, and not for ever. -/
def Contended (rules : List Rule) : Prop :=
  ∀ r ∈ rules, r.isLive = true → r.code = Code.deadlock ∧ r.left ≠ none

/-- How often rules with an end can still fire. -/
def firings : List Rule → Nat
  | [] => 0
  | r :: rules => r.left.getD 0 + firings rules

theorem firings_append (rules rules' : List Rule) :
    firings (rules ++ rules') = firings rules + firings rules' := by
  induction rules with
  | nil => simp [firings]
  | cons r rules ih => simp only [List.cons_append, firings, ih, Nat.add_assoc]

/-- The first rule that charges a text fires; no other rule changes. -/
theorem charge_some (h : charge text rules = some (code, rules')) :
    ∃ before r after, rules = before ++ r :: after ∧ r.charges text = true ∧ code = r.code ∧
      rules' = before ++ r.fire :: after := by
  rw [charge_eq] at h
  obtain ⟨i, paid, h⟩ := Option.bind_eq_some_iff.1 h
  obtain ⟨r, hr, pair⟩ := Option.map_eq_some_iff.1 h
  obtain ⟨⟨q, hq, charged⟩, -⟩ := payer?_eq_some_iff.1 paid
  obtain rfl : r = q := Option.some.inj (hr.symm.trans hq)
  obtain ⟨hi, rfl⟩ := List.getElem?_eq_some_iff.1 hr
  cases pair
  refine ⟨rules.take i, rules[i], rules.drop (i + 1), ?_, charged, rfl, ?_⟩
  · rw [List.getElem_cons_drop, List.take_append_drop]
  · rw [List.modify_eq_take_cons_drop hi]

/-- A call that is charged loses a race, and costs one firing. -/
theorem Contended.charged (h : Contended rules) (charged : charge text rules = some (code, rules')) :
    code = Code.deadlock ∧ Contended rules' ∧ firings rules' + 1 = firings rules := by
  obtain ⟨before, r, after, rfl, hr, rfl, rfl⟩ := charge_some charged
  have live : r.isLive = true := by
    simp only [charges, Bool.and_eq_true] at hr
    exact hr.2
  obtain ⟨code, ends⟩ := h r (by simp) live
  obtain ⟨n, hn⟩ := Option.ne_none_iff_exists'.1 ends
  refine ⟨code, ?_, ?_⟩
  · intro q hq hlive
    rcases List.mem_append.1 hq with hb | ha
    · exact h q (by simp [hb]) hlive
    · rcases List.mem_cons.1 ha with rfl | ha
      · exact ⟨code, by simp [fire, hn]⟩
      · exact h q (by simp [ha]) hlive
  · have some : 0 < n := by
      rw [isLive, hn] at live
      have : n ≠ 0 := by simpa using live
      omega
    simp only [firings_append, firings, fire, hn, Option.map_some, Option.getD_some]
    omega

/-- Where the first of the texts that is charged stands, and the rules after it fired. -/
def race : List String → List Rule → Option (Nat × List Rule)
  | [], _ => none
  | text :: texts, rules =>
    match charge text rules with
    | some (_, rules') => some (0, rules')
    | none => (race texts rules).map fun (i, rules') => (i + 1, rules')

theorem race_append : race (texts ++ texts') rules =
    (race texts rules).or
      ((race texts' rules).map fun (i, rules') => (i + texts.length, rules')) := by
  induction texts with
  | nil => simp [race]
  | cons text texts ih =>
    simp only [List.cons_append, race]
    cases charge text rules with
    | some p => rfl
    | none =>
      simp only [ih, List.length_cons]
      cases race texts rules with
      | some p => rfl
      | none => simp [Option.map_map, Function.comp_def, Nat.add_assoc]

/-- What lost was charged, and nothing before it was. -/
theorem race_some (h : race texts rules = some (i, rules')) :
    ∃ text code, texts[i]? = some text ∧ charge text rules = some (code, rules') ∧
      ∀ text ∈ texts.take i, charge text rules = none := by
  induction texts generalizing i with
  | nil => cases h
  | cons text texts ih =>
    unfold race at h
    split at h
    · rename_i code rules' hc
      cases h
      exact ⟨text, code, rfl, hc, by simp⟩
    · rename_i hc
      obtain ⟨⟨j, rest⟩, hrest, hpair⟩ := Option.map_eq_some_iff.1 h
      cases hpair
      obtain ⟨text', code, hj, charged, spared⟩ := ih hrest
      refine ⟨text', code, by simpa using hj, charged, ?_⟩
      simpa using ⟨hc, spared⟩

/-- The places at which one round of the texts after the other loses a race. -/
inductive Races (texts : List String) : List Rule → List Nat → List Rule → Prop where
  | none (rules : List Rule) : Races texts rules [] rules
  | more {rules rules' rules'' : List Rule} {i : Nat} {is : List Nat}
      (lost : race texts rules = some (i, rules')) (rest : Races texts rules' is rules'') :
      Races texts rules (i :: is) rules''

/-- Races are lost only as long as there are firings left. -/
theorem Races.firings {is : List Nat} (h : Races texts rules is rules') (hr : Contended rules) :
    Contended rules' ∧ Rule.firings rules' + is.length = Rule.firings rules := by
  induction h with
  | none => exact ⟨hr, rfl⟩
  | more lost _ ih =>
    obtain ⟨text, code, _, charged, _⟩ := race_some lost
    obtain ⟨_, contended, cost⟩ := hr.charged charged
    obtain ⟨hr', total⟩ := ih contended
    refine ⟨hr', ?_⟩
    rw [List.length_cons]
    omega

/-- After finitely many lost races a round goes through. -/
theorem Contended.races_end (texts : List String) (hr : Contended rules) :
    ∃ is rules', Races texts rules is rules' ∧ race texts rules' = none := by
  -- by the firings left, of which every lost race uses up one
  generalize hn : Rule.firings rules = n
  induction n using Nat.strongRecOn generalizing rules with
  | ind n ih =>
    cases lost : race texts rules with
    | none => exact ⟨[], rules, .none rules, lost⟩
    | some p =>
      obtain ⟨i, rules'⟩ := p
      obtain ⟨text, code, _, charged, _⟩ := race_some lost
      obtain ⟨_, contended, cost⟩ := hr.charged charged
      obtain ⟨is, rules'', rest, free⟩ := ih _ (by omega) contended rfl
      exact ⟨i :: is, rules'', .more lost rest, free⟩

/-- The first of the lost races come before the others. -/
theorem Races.take {is : List Nat} (h : Races texts rules is rules') (n : Nat) :
    ∃ rules', Races texts rules (is.take n) rules' := by
  induction h generalizing n with
  | none rules => exact ⟨rules, by rw [List.take_nil]; exact .none rules⟩
  | @more rules _ _ i is lost _ ih =>
    cases n with
    | zero => exact ⟨rules, .none rules⟩
    | succ n =>
      obtain ⟨rules', rest⟩ := ih n
      exact ⟨rules', .more lost rest⟩

end Rule

namespace Server

variable {s : Server} {text : String} {rules : List Rule} {code : Nat}

theorem firingsLeft_eq (s : Server) : s.firingsLeft = Rule.firings s.rules := by
  have shift (n : Nat) :
      s.rules.foldl (fun n r => n + r.left.getD 0) n = n + Rule.firings s.rules := by
    induction s.rules generalizing n with
    | nil => rfl
    | cons r rules ih => rw [List.foldl_cons, ih, Rule.firings, Nat.add_assoc]
  rw [firingsLeft, shift, Nat.zero_add]

theorem check_charged_contended (hs : Rule.Contended s.rules)
    (h : Rule.charge text s.rules = some (code, rules)) :
    ∃ e, e.kind = .deadlock ∧ s.check text = (.error e, { s with rules }) := by
  obtain ⟨hcode, _⟩ := hs.charged h
  refine ⟨⟨code, s!"injected failure for '{text}'"⟩, ?_, by simp only [check, h]⟩
  rw [hcode]
  rfl

end Server
end QueryPool
