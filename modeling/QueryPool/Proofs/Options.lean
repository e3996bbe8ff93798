import QueryPool.Options.CommandLine
import QueryPool.Options.Document
import QueryPool.Proofs.Json.Tree

namespace QueryPool.Options

/-- What a setting is; a flag that is on counts as one. -/
def number (o : Options) : Setting → Nat
  | .asyncThreads => o.asyncThreads.toNat
  | .syncThreads => o.syncThreads.toNat
  | .reconnectAttempts => o.reconnectAttempts.toNat
  | .reconnectDelay => o.reconnectDelayMs.toNat
  | .deadlockBudget => o.deadlockBudgetMs.toNat
  | .warnAboutSyncQueries => o.warnAboutSyncQueries.toNat

section Set

theorem number_set_same (o : Options) {s : Setting} {n : Nat} (h : n ≤ s.limit) :
    (o.set s n).number s = n := by
  cases s with
  | warnAboutSyncQueries =>
    obtain rfl | rfl := Nat.le_one_iff_eq_zero_or_eq_one.1 h <;> rfl
  | asyncThreads | syncThreads =>
    exact UInt8.toNat_ofNat_of_lt' (Nat.lt_of_le_pred (by decide) h)
  | reconnectAttempts => exact UInt32.toNat_ofNat_of_lt' (Nat.lt_of_le_pred (by decide) h)
  | reconnectDelay | deadlockBudget =>
    exact UInt64.toNat_ofNat_of_lt' (Nat.lt_of_le_pred (by decide) h)

theorem number_set_ne (o : Options) {s t : Setting} (h : t ≠ s) (n : Nat) :
    (o.set s n).number t = o.number t := by
  cases s <;> cases t <;> first | rfl | exact absurd rfl h

/-- The counts that a pool checks, in the order of the check. -/
def checked : List Setting := [.asyncThreads, .syncThreads, .reconnectAttempts]

/-- What is wrong with options names the first count that is zero. -/
theorem validate_eq (o : Options) :
    o.validate = match checked.find? (o.number · = 0) with
      | none => .ok ()
      | some s => .error (.config (.belowOne s.key)) := by
  have async : o.asyncThreads = 0 ↔ o.number .asyncThreads = 0 := UInt8.toNat_inj.symm
  have sync : o.syncThreads = 0 ↔ o.number .syncThreads = 0 := UInt8.toNat_inj.symm
  have attempts : o.reconnectAttempts = 0 ↔ o.number .reconnectAttempts = 0 :=
    UInt32.toNat_inj.symm
  simp only [validate, async, sync, attempts, checked, List.find?_cons]
  by_cases noAsync : o.number .asyncThreads = 0
  · simp [noAsync]
  · by_cases noSync : o.number .syncThreads = 0
    · simp [noAsync, noSync]
    · by_cases noAttempt : o.number .reconnectAttempts = 0 <;> simp [noAsync, noSync, noAttempt]

end Set

/-- Settings and the numbers they are given, in the order in which they are given. -/
abbrev Givens := List (Setting × Nat)

/-- Takes in a setting that has not been given yet. -/
def give {ε : Type} (repeated beyond : ε) (g : Gathered) (x : Setting × Nat) : Except ε Gathered :=
  if x.1 ∈ g.2 then .error repeated
  else if x.2 ≤ x.1.limit then .ok (g.1.set x.1 x.2, x.1 :: g.2)
  else .error beyond

def setAll (o : Options) (xs : Givens) : Options := xs.foldl (fun o x => o.set x.1 x.2) o

section Give

variable {ε : Type} {repeated beyond : ε} {xs : Givens}

theorem give_all (within : ∀ x ∈ xs, x.2 ≤ x.1.limit) (g : Gathered) :
    (xs.foldlM (give repeated beyond) g).map (·.1) =
      if (xs.map (·.1)).Nodup ∧ ∀ x ∈ xs, x.1 ∉ g.2 then .ok (g.1.setAll xs)
      else .error repeated := by
  induction xs generalizing g with
  | nil => simp [pure, Except.pure, Except.map, setAll]
  | cons x xs ih =>
    have hx : x.2 ≤ x.1.limit := within x List.mem_cons_self
    have tail := ih fun x hx => within x (List.mem_cons_of_mem _ hx)
    rw [List.foldlM_cons]
    by_cases known : x.1 ∈ g.2
    · simp [give, known, bind, Except.bind, Except.map]
    · have step : give repeated beyond g x = .ok (g.1.set x.1 x.2, x.1 :: g.2) := by
        rw [give, if_neg known, if_pos hx]
      rw [step]
      refine (tail _).trans (if_congr ?_ rfl rfl)
      simp only [List.map_cons, List.nodup_cons, List.mem_cons, not_or, List.mem_map, not_exists,
        not_and]
      grind

/-- A setting that was given is what it was given; the others stay what they were. -/
theorem number_setAll (within : ∀ x ∈ xs, x.2 ≤ x.1.limit) (once : (xs.map (·.1)).Nodup)
    (o : Options) (s : Setting) : (o.setAll xs).number s = (xs.lookup s).getD (o.number s) := by
  induction xs generalizing o with
  | nil => rfl
  | cons x xs ih =>
    rw [List.map_cons, List.nodup_cons] at once
    have tail := ih (fun x hx => within x (List.mem_cons_of_mem _ hx)) once.2 (o.set x.1 x.2)
    rw [setAll, List.foldl_cons]
    refine tail.trans ?_
    by_cases hs : s = x.1
    · subst hs
      have later : xs.lookup x.1 = none := by
        rw [List.lookup_eq_none_iff]
        intro y hy
        rw [bne_iff_ne]
        intro same
        exact once.1 (same ▸ List.mem_map_of_mem hy)
      rw [later, List.lookup_cons]
      simp [number_set_same o (within x List.mem_cons_self)]
    · have other : (s == x.1) = false := by simpa using hs
      rw [List.lookup_cons, other, number_set_ne o hs]

end Give

namespace CommandLine

section Words

/-- The words that give a setting; a flag is given by its name alone. -/
def argument (x : Setting × Nat) : List (List Char) :=
  ('-' :: '-' :: x.1.option) :: if x.1.isFlag then [] else [Text.digits x.2]

def gathered (c : CommandLine) : Gathered := (c.options, c.given)

/-- What is next once a setting has been given. -/
def next (c : CommandLine) (x : Setting × Nat) : Except CommandLineError CommandLine := do
  let d ← c.complete
  if x.1.isFlag then d.raise x.1
  else return { d with waiting := some (x.1, some (Text.digits x.2)) }

variable {c d : CommandLine} {x : Setting × Nat}

theorem store_settled {s : Setting} {v : List Char} (h : c.store s v = .ok d) :
    d.waiting = c.waiting := by
  unfold store at h
  split at h
  · cases h
  · split at h <;> cases h
    rfl

theorem complete_settled (h : c.complete = .ok d) : d.waiting = none := by
  unfold complete at h
  split at h
  · cases h
    rfl
  · cases h
  · exact store_settled h

theorem ofOption?_option (s : Setting) : Setting.ofOption? s.option = some s := by
  cases s <;> decide

theorem value?_digits (s : Setting) (n : Nat) :
    s.value? (Text.digits n) = if n ≤ s.limit then some n else none := by
  obtain ⟨d, ds, hd, digit⟩ := Text.digits_eq_cons n
  have unsigned : s.value? (Text.digits n) = Text.bounded? s.limit (Text.digits n) := by
    rw [hd]
    unfold Setting.value?
    split
    case h_4 => rfl
    -- a minus sign is no digit
    all_goals
      rename_i heq
      cases heq
      cases digit
  rw [unsigned, Text.bounded?_digits]

theorem words_option (c : CommandLine) (s : Setting) (rest : List (List Char)) :
    c.words (('-' :: '-' :: s.option) :: rest) = (c.long s.option none).bind (·.words rest) := by
  cases s <;> rfl

/-- A word that does not begin with a hyphen is a value. -/
theorem words_plain (c : CommandLine) {d : Char} (hd : d ≠ '-') (w : List Char)
    (rest : List (List Char)) :
    c.words ((d :: w) :: rest) = (c.plain (d :: w)).bind (·.words rest) := by
  have read : c.word (d :: w) = c.plain (d :: w) := by
    unfold word
    split
    case h_4 => rfl
    all_goals
      rename_i heq
      cases heq
      exact absurd rfl hd
  rw [words]
  · rw [read]
    rfl
  · rintro ⟨⟩
    exact hd rfl

theorem long_option (c : CommandLine) (s : Setting) :
    c.long s.option none = c.complete.bind fun c =>
      if s.isFlag then c.raise s else .ok { c with waiting := some (s, none) } := by
  unfold long
  rw [ofOption?_option]
  rfl

theorem words_argument (c : CommandLine) (x : Setting × Nat) (rest : List (List Char)) :
    c.words (argument x ++ rest) = (c.next x).bind (·.words rest) := by
  obtain ⟨s, n⟩ := x
  obtain ⟨d, ds, hd, digit⟩ := Text.digits_eq_cons n
  have value : d ≠ '-' := by
    rintro rfl
    cases digit
  rw [argument, List.cons_append, words_option, long_option, next]
  cases c.complete with
  | error e => rfl
  | ok c =>
    by_cases flag : s.isFlag
    · simp only [flag]
      rfl
    · simp only [flag]
      rw [hd]
      exact words_plain _ value ds rest

theorem store_digits (c : CommandLine) (x : Setting × Nat) :
    (c.store x.1 (Text.digits x.2)).map gathered = give .repeated .badValue c.gathered x := by
  rw [store, give, value?_digits]
  by_cases known : x.1 ∈ c.given
  · simp only [gathered, known, ↓reduceIte]
    rfl
  · by_cases fits : x.2 ≤ x.1.limit
    · simp only [gathered, known, fits, ↓reduceIte]
      rfl
    · simp only [gathered, known, fits, ↓reduceIte]
      rfl

theorem raise_flag {s : Setting} (flag : s.isFlag) (hd : d.waiting = none) :
    ((d.raise s).bind complete).map gathered = give .repeated .badValue d.gathered (s, 1) := by
  obtain rfl : s = .warnAboutSyncQueries := of_decide_eq_true flag
  rw [raise, give]
  by_cases known : Setting.warnAboutSyncQueries ∈ d.given
  · simp only [gathered, known, ↓reduceIte]
    rfl
  · simp only [gathered, known, ↓reduceIte, Except.bind, complete, hd]
    rfl

theorem next_complete (flag : x.1.isFlag → x.2 = 1) (c : CommandLine) :
    ((c.next x).bind complete).map gathered =
      (c.complete.map gathered).bind fun g => give .repeated .badValue g x := by
  rw [next]
  cases hc : c.complete with
  | error e => rfl
  | ok d =>
    by_cases hflag : x.1.isFlag
    · simp only [hflag]
      have raised := raise_flag hflag (complete_settled hc)
      rw [← flag hflag] at raised
      exact raised
    · simp only [hflag]
      exact store_digits { d with waiting := none } x

/-- Settings are taken in one after the other, after what was waiting. -/
theorem words_given {xs : Givens} (flags : ∀ x ∈ xs, x.1.isFlag → x.2 = 1) (c : CommandLine) :
    (c.words (xs.flatMap argument)).map gathered =
      (c.complete.map gathered).bind (xs.foldlM (give .repeated .badValue)) := by
  induction xs generalizing c with
  | nil =>
    rw [List.flatMap_nil, words]
    cases c.complete <;> rfl
  | cons x xs ih =>
    have tail := ih fun x hx => flags x (List.mem_cons_of_mem _ hx)
    have head := next_complete (flags x List.mem_cons_self) c
    rw [List.flatMap_cons, words_argument]
    calc
      _ = (((c.next x).bind complete).map gathered).bind (xs.foldlM (give .repeated .badValue)) := by
        cases c.next x with
        | error e => rfl
        | ok d => exact tail d
      _ = _ := by
        rw [head]
        cases c.complete with
        | error e => rfl
        | ok d => rfl

end Words

end CommandLine

section Document

open Json

/-- The member that gives a setting; a flag is true or false. -/
def memberOf (x : Setting × Nat) : String × Json :=
  (x.1.key, if x.1.isFlag then .bool (x.2 = 1) else .number (.integer x.2))

def documentOf (xs : Givens) : Json := .object (xs.map memberOf)

/-- A number that some setting could be given, and one that a flag can. -/
def Written (x : Setting × Nat) : Prop := x.2 < UInt64.size ∧ (x.1.isFlag → x.2 ≤ 1)

variable {x : Setting × Nat} {r : List Char}

theorem ofKey?_key (s : Setting) : Setting.ofKey? s.key = some s := by
  cases s <;> decide

theorem limit_lt (s : Setting) : s.limit < UInt64.size := by
  cases s <;> decide

theorem written_of_le_limit (h : x.2 ≤ x.1.limit) : Written x := by
  refine ⟨Nat.lt_of_le_of_lt h (limit_lt x.1), fun flag => ?_⟩
  obtain ⟨s, n⟩ := x
  obtain rfl : s = .warnAboutSyncQueries := of_decide_eq_true flag
  exact h

theorem natural_digits {n : Nat} (hn : n < UInt64.size) (limit : Nat) (hr : Ended r) :
    natural limit (Text.digits n ++ r) =
      if n ≤ limit then .ok (n, r) else .error .mismatch := by
  have read := readNumber_unsigned hn hr
  obtain ⟨d, ds, hd, digit⟩ := Text.digits_eq_cons n
  rw [hd, List.cons_append] at read ⊢
  rw [natural, skipSpace_of_not_space (not_space_of_isDigit digit)]
  simp only [digit, read, ↓reduceIte, Int.ofNat_le, Int.toNat_natCast]

theorem readSetting_written (h : Written x) (hr : Ended r) :
    readSetting x.1 ((memberOf x).2.write ++ r) =
      if x.2 ≤ x.1.limit then .ok (x.2, r) else .error .mismatch := by
  obtain ⟨s, n⟩ := x
  have number : (Json.number (.integer n)).write = Text.digits n := by
    simp [write, Number.write, integerText]
  cases s with
  | warnAboutSyncQueries =>
    obtain rfl | rfl := Nat.le_one_iff_eq_zero_or_eq_one.1 (h.2 rfl) <;> rfl
  | asyncThreads | syncThreads | reconnectAttempts | reconnectDelay | deadlockBudget =>
    exact (congrArg (natural _ <| · ++ r) number).trans (natural_digits h.1 _ hr)

theorem setting_undone (h : Written x) :
    Undone '\x7d' member (writeMember ∘ memberOf) (give .mismatch .mismatch) x where
  starts := ⟨'"', _, rfl, rfl, by decide⟩
  read g r hr := by
    have name : (memberOf x).1 = x.1.key := rfl
    simp only [member, Function.comp_apply, name_writeMember, name, ofKey?_key, colon_cons,
      readSetting_written h hr, bind, Except.bind, give]
    by_cases known : x.1 ∈ g.2
    · simp only [known, ↓reduceIte]
      rfl
    · by_cases fits : x.2 ≤ x.1.limit
      · simp only [known, fits, ↓reduceIte]
        rfl
      · simp only [known, fits, ↓reduceIte]
        rfl

theorem contents_map {α β : Type} (close : Char) (write : β → List Char) (f : α → β)
    (xs : List α) : contents close write (xs.map f) = contents close (write ∘ f) xs := by
  cases xs with
  | nil => rfl
  | cons x xs => simp [contents, listed, List.flatMap_map]

theorem ofJson_given {xs : Givens} (h : ∀ x ∈ xs, Written x) :
    ofJson (String.ofList (documentOf xs).write) =
      (xs.foldlM (give .mismatch .mismatch) ({}, [])).map (·.1) := by
  have all := parts_contents (.inr rfl) (fun x hx => setting_undone (h x hx)) ({}, []) []
  have opened (s : List Char) : readOptions ('\x7b' :: s) =
      (parts '\x7d' member (s.length + 1) true ({}, []) s).map fun p => (p.1.1, p.2) := rfl
  rw [List.append_nil] at all
  rw [ofJson, String.toList_ofList, documentOf, write_object, contents_map, whole, opened, all]
  cases xs.foldlM (give Fault.mismatch Fault.mismatch) ({}, []) <;> rfl

end Document

section Read

variable {xs : Givens}

theorem ofArguments_given (flags : ∀ x ∈ xs, x.1.isFlag → x.2 = 1) :
    ofArguments ((xs.flatMap CommandLine.argument).map String.ofList) =
      (xs.foldlM (give .repeated .badValue) ({}, [])).map (·.1) := by
  have read : (CommandLine.words {} (xs.flatMap CommandLine.argument)).map CommandLine.gathered =
      xs.foldlM (give .repeated .badValue) ({}, []) := CommandLine.words_given flags {}
  have same (ws : List (List Char)) : (ws.map String.ofList).map String.toList = ws := by simp
  rw [ofArguments, same, ← read]
  cases CommandLine.words {} (xs.flatMap CommandLine.argument) <;> rfl

/-- What is given on a command line or in a file, within the limits of the settings. -/
theorem read_given (within : ∀ x ∈ xs, x.2 ≤ x.1.limit) (flags : ∀ x ∈ xs, x.1.isFlag → x.2 = 1) :
    ofArguments ((xs.flatMap CommandLine.argument).map String.ofList) =
        (if (xs.map (·.1)).Nodup then .ok (setAll {} xs) else .error .repeated) ∧
      ofJson (String.ofList (documentOf xs).write) =
        (if (xs.map (·.1)).Nodup then .ok (setAll {} xs) else .error .mismatch) := by
  rw [ofArguments_given flags, ofJson_given fun x hx => written_of_le_limit (within x hx),
    give_all within, give_all within]
  simp

/-- Settings that are given once each, within their limits and in any order, mean the same on a
command line and in a file: they are what they were given, and the others have their defaults. -/
theorem read_as_given (within : ∀ x ∈ xs, x.2 ≤ x.1.limit) (once : (xs.map (·.1)).Nodup)
    (flags : ∀ x ∈ xs, x.1.isFlag → x.2 = 1) :
    ∃ o, ofArguments ((xs.flatMap CommandLine.argument).map String.ofList) = .ok o ∧
      ofJson (String.ofList (documentOf xs).write) = .ok o ∧
      ∀ s, o.number s = (xs.lookup s).getD (({} : Options).number s) := by
  obtain ⟨line, file⟩ := read_given within flags
  rw [if_pos once] at line file
  exact ⟨setAll {} xs, line, file, number_setAll within once {}⟩

end Read

end QueryPool.Options
