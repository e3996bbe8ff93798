import QueryPool.Proofs.Json.Words

namespace QueryPool.Json

mutual

/-- How many containers lie in one another. -/
def depth : Json → Nat
  | .array items => depthItems items + 1
  | .object members => depthMembers members + 1
  | _ => 0

def depthItems : List Json → Nat
  | [] => 0
  | x :: xs => max x.depth (depthItems xs)

def depthMembers : List (String × Json) → Nat
  | [] => 0
  | (_, x) :: xs => max x.depth (depthMembers xs)

end

mutual

/-- No number is a real. -/
def integral : Json → Bool
  | .number (.real _) => false
  | .array items => integralItems items
  | .object members => integralMembers members
  | _ => true

def integralItems : List Json → Bool
  | [] => true
  | x :: xs => x.integral && integralItems xs

def integralMembers : List (String × Json) → Bool
  | [] => true
  | (_, x) :: xs => x.integral && integralMembers xs

end

section Lists

theorem depthItems_le {n : Nat} (xs : List Json) : depthItems xs ≤ n ↔ ∀ x ∈ xs, x.depth ≤ n := by
  induction xs with
  | nil => simp [depthItems]
  | cons x xs ih => rw [depthItems, Nat.max_le, ih, List.forall_mem_cons]

theorem depthMembers_le {n : Nat} (ms : List (String × Json)) :
    depthMembers ms ≤ n ↔ ∀ m ∈ ms, m.2.depth ≤ n := by
  induction ms with
  | nil => simp [depthMembers]
  | cons m ms ih => rw [depthMembers, Nat.max_le, ih, List.forall_mem_cons]

theorem integralItems_iff (xs : List Json) : integralItems xs ↔ ∀ x ∈ xs, x.integral := by
  induction xs with
  | nil => simp [integralItems]
  | cons x xs ih => simp [integralItems, ih]

theorem integralMembers_iff (ms : List (String × Json)) :
    integralMembers ms ↔ ∀ m ∈ ms, m.2.integral := by
  induction ms with
  | nil => simp [integralMembers]
  | cons m ms ih => simp [integralMembers, ih]

theorem canonicalItems_iff (xs : List Json) : canonicalItems xs ↔ ∀ x ∈ xs, x.canonical := by
  induction xs with
  | nil => simp [canonicalItems]
  | cons x xs ih => simp [canonicalItems, ih]

theorem canonicalMembers_iff (ms : List (String × Json)) :
    canonicalMembers ms ↔ ∀ m ∈ ms, m.2.canonical := by
  induction ms with
  | nil => simp [canonicalMembers]
  | cons m ms ih => simp [canonicalMembers, ih]

end Lists

section Tidy

/-- A member whose name comes before all others stays in front. -/
theorem putEarlier_first {k : String} {ms : List (String × Json)}
    (first : (ms.map (·.1)).all (k < ·)) (x : Json) : putEarlier k x ms = (k, x) :: ms := by
  cases ms with
  | nil => rfl
  | cons m ms =>
    have before : k < m.1 := by simp_all
    rw [putEarlier.eq_def]
    simp [before]

theorem tidyMembers_same {ms : List (String × Json)} (sorted : ascending (ms.map (·.1)))
    (same : ∀ m ∈ ms, m.2.tidy = m.2) : tidyMembers ms = ms := by
  induction ms with
  | nil => rfl
  | cons m ms ih =>
    simp only [List.map_cons, ascending, Bool.and_eq_true] at sorted
    have tail := ih sorted.2 fun m hm => same m (List.mem_cons_of_mem _ hm)
    rw [tidyMembers, same m List.mem_cons_self, tail, putEarlier_first sorted.1]

theorem tidyItems_same {xs : List Json} (same : ∀ x ∈ xs, x.tidy = x) : tidyItems xs = xs := by
  induction xs with
  | nil => rfl
  | cons x xs ih =>
    rw [tidyItems, same x List.mem_cons_self, ih fun x hx => same x (List.mem_cons_of_mem _ hx)]

/-- There is nothing to put in order in a canonical tree. -/
theorem tidy_of_canonical {j : Json} (h : j.canonical) : j.tidy = j := by
  induction j using Json.induct with
  | array items ih =>
    rw [canonical, canonicalItems_iff] at h
    rw [tidy, tidyItems_same fun x hx => ih x hx (h x hx)]
  | object members ih =>
    rw [canonical, Bool.and_eq_true, canonicalMembers_iff] at h
    rw [tidy, tidyMembers_same h.1 fun m hm => ih m hm (h.2 m hm)]
  | null => rfl
  | bool b => rfl
  | number n => rfl
  | text s => rfl

end Tidy

section Parts

/-- Parts with a comma before each, and the closing mark. -/
def listed {β : Type} (close : Char) (write : β → List Char) (xs : List β) : List Char :=
  xs.flatMap (fun x => ',' :: write x) ++ [close]

/-- The text of a container after its opening mark. -/
def contents {β : Type} (close : Char) (write : β → List Char) : List β → List Char
  | [] => [close]
  | x :: xs => write x ++ listed close write xs

theorem writeItems_eq (xs : List Json) : writeItems xs = listed ']' write xs := by
  induction xs with
  | nil => rfl
  | cons x xs ih => simp [writeItems, ih, listed]

/-- A member after its comma. -/
def writeMember (m : String × Json) : List Char := writeText m.1 ++ ':' :: m.2.write

theorem writeMembers_eq (ms : List (String × Json)) :
    writeMembers ms = listed '\x7d' writeMember ms := by
  induction ms with
  | nil => rfl
  | cons m ms ih => simp [writeMembers, ih, listed, writeMember]

theorem write_array (xs : List Json) : (array xs).write = '[' :: contents ']' write xs := by
  cases xs with
  | nil => rfl
  | cons x xs => rw [write, writeItems_eq, contents, List.cons_append]

theorem write_object (ms : List (String × Json)) :
    (object ms).write = '\x7b' :: contents '\x7d' writeMember ms := by
  cases ms with
  | nil => rfl
  | cons m ms => simp [write, writeMembers_eq, contents, writeMember]

theorem skipSpace_of_not_space {c : Char} (h : isSpace c = false) (s : List Char) :
    skipSpace (c :: s) = c :: s :=
  List.dropWhile_cons_of_neg (by simp [h])

variable {σ β : Type} {close : Char} {part : σ → Reader σ} {write : β → List Char}
  {gather : σ → β → Except Fault σ}

theorem length_listed (close : Char) (write : β → List Char) (xs : List β) :
    xs.length < (listed close write xs).length := by
  induction xs with
  | nil => simp [listed]
  | cons x xs ih =>
    simp only [listed, List.flatMap_cons, List.length_append, List.length_cons] at ih ⊢
    omega

theorem ended_listed (hclose : close = ']' ∨ close = '\x7d') (xs : List β) (r : List Char) :
    Ended (listed close write xs ++ r) := by
  intro c hc
  cases xs with
  | nil =>
    cases hc
    exact .inr hclose
  | cons x xs =>
    cases hc
    exact .inl rfl

theorem parts_close (hclose : close = ']' ∨ close = '\x7d') (fuel : Nat) (first : Bool)
    (acc : σ) (s : List Char) :
    parts close part (fuel + 1) first acc (close :: s) = .ok (acc, s) := by
  obtain rfl | rfl := hclose <;> simp [parts, skipSpace_of_not_space, isSpace]

/-- Before the first part there is no comma; otherwise it is read like the others. -/
theorem parts_first (hclose : close = ']' ∨ close = '\x7d') {c : Char} (space : isSpace c = false)
    (hc : c ≠ close) (fuel : Nat) (acc : σ) (s : List Char) :
    parts close part (fuel + 1) true acc (c :: s) =
      parts close part (fuel + 1) false acc (',' :: c :: s) := by
  obtain rfl | rfl := hclose <;>
    simp [parts, skipSpace_of_not_space, space, hc, show isSpace ',' = false from rfl]

theorem parts_next (hclose : close = ']' ∨ close = '\x7d') {c : Char} (space : isSpace c = false)
    (fuel : Nat) (acc : σ) (s : List Char) :
    parts close part (fuel + 1) false acc (',' :: c :: s) =
      (part acc (c :: s)).bind fun p => parts close part fuel false p.1 p.2 := by
  obtain rfl | rfl := hclose <;>
    simp [parts, skipSpace_of_not_space, space, show isSpace ',' = false from rfl] <;>
    cases part acc (c :: s) <;> rfl

/-- `write` gives no blank and no closing mark in front, and `part` makes of what it gives, whatever
follows in a container, what `gather` makes of the part. -/
structure Undone (close : Char) (part : σ → Reader σ) (write : β → List Char)
    (gather : σ → β → Except Fault σ) (x : β) : Prop where
  starts : ∃ c s, write x = c :: s ∧ isSpace c = false ∧ c ≠ close
  read : ∀ acc r, Ended r → part acc (write x ++ r) = (gather acc x).map (·, r)

theorem parts_listed (hclose : close = ']' ∨ close = '\x7d') {xs : List β}
    (undone : ∀ x ∈ xs, Undone close part write gather x) {fuel : Nat} (enough : xs.length < fuel)
    (acc : σ) (r : List Char) :
    parts close part fuel false acc (listed close write xs ++ r) =
      (xs.foldlM gather acc).map (·, r) := by
  induction xs generalizing fuel acc with
  | nil =>
    obtain ⟨fuel, rfl⟩ := Nat.exists_eq_add_one_of_ne_zero (Nat.ne_of_gt enough)
    exact parts_close hclose fuel false acc r
  | cons x xs ih =>
    obtain ⟨fuel, rfl⟩ := Nat.exists_eq_add_one_of_ne_zero (Nat.ne_zero_of_lt enough)
    obtain ⟨⟨c, s, hx, space, -⟩, read⟩ := undone x List.mem_cons_self
    have tail := ih (fun x hx => undone x (List.mem_cons_of_mem _ hx))
      (show xs.length < fuel by simpa using enough)
    have split : listed close write (x :: xs) ++ r =
        ',' :: (write x ++ (listed close write xs ++ r)) := by
      simp [listed]
    have head := read acc (listed close write xs ++ r) (ended_listed hclose xs r)
    rw [split]
    rw [hx, List.cons_append] at head ⊢
    rw [parts_next hclose space, head, List.foldlM_cons]
    cases gather acc x with
    | ok acc => exact tail acc
    | error e => rfl

/-- A container gives what its parts gather one after the other. -/
theorem parts_contents (hclose : close = ']' ∨ close = '\x7d') {xs : List β}
    (undone : ∀ x ∈ xs, Undone close part write gather x) (acc : σ) (r : List Char) :
    parts close part ((contents close write xs ++ r).length + 1) true acc
        (contents close write xs ++ r) =
      (xs.foldlM gather acc).map (·, r) := by
  cases xs with
  | nil => exact parts_close hclose _ true acc r
  | cons x xs =>
    obtain ⟨⟨c, s, hx, space, hc⟩, -⟩ := undone x List.mem_cons_self
    have enough : (x :: xs).length < (contents close write (x :: xs) ++ r).length + 1 := by
      have := length_listed close write xs
      rw [contents, hx]
      simp only [List.length_append, List.length_cons]
      omega
    have all := parts_listed hclose undone enough acc r
    have split : listed close write (x :: xs) ++ r =
        ',' :: (contents close write (x :: xs) ++ r) := by
      simp [listed, contents]
    have first : contents close write (x :: xs) ++ r =
        c :: (s ++ (listed close write xs ++ r)) := by
      simp [contents, hx]
    rw [split] at all
    rw [first] at all ⊢
    rw [parts_first hclose space hc, all]

/-- Puts a part that fits in front. -/
def keep (fits : β → Prop) [DecidablePred fits] (acc : List β) (x : β) : Except Fault (List β) :=
  if fits x then .ok (x :: acc) else .error .malformed

theorem foldlM_keep (fits : β → Prop) [DecidablePred fits] (xs acc : List β) :
    xs.foldlM (keep fits) acc =
      if ∀ x ∈ xs, fits x then .ok (xs.reverse ++ acc) else .error .malformed := by
  induction xs generalizing acc with
  | nil => simp [pure, Except.pure]
  | cons x xs ih =>
    by_cases hx : fits x
    · simp [keep, hx, bind, Except.bind, ih]
    · simp [keep, hx, bind, Except.bind]

end Parts

section Values

theorem not_space_of_isDigit {c : Char} (h : c.isDigit) : isSpace c = false := by
  cases hs : isSpace c with
  | false => rfl
  | true =>
    simp only [isSpace, Bool.or_eq_true, decide_eq_true_eq] at hs
    obtain ((rfl | rfl) | rfl) | rfl := hs <;> cases h

-- what a value is shows in its first character

variable (n : Nat) (s : List Char)

theorem readValue_n :
    readValue n ('n' :: s) = (word ['u', 'l', 'l'] s).map fun (_, s) => (.null, s) := by
  cases n <;> rfl

theorem readValue_t :
    readValue n ('t' :: s) = (word ['r', 'u', 'e'] s).map fun (_, s) => (.bool true, s) := by
  cases n <;> rfl

theorem readValue_f :
    readValue n ('f' :: s) = (word ['a', 'l', 's', 'e'] s).map fun (_, s) => (.bool false, s) := by
  cases n <;> rfl

theorem readValue_quote :
    readValue n ('"' :: s) = (readString s).map fun (t, s) => (.text t, s) := by
  cases n <;> rfl

theorem readValue_minus :
    readValue n ('-' :: s) = (readNumber true s).map fun (m, s) => (.number m, s) := by
  cases n <;> rfl

theorem readValue_digit {d : Char} (h : d.isDigit) :
    readValue n (d :: s) = (readNumber false (d :: s)).map fun (m, s) => (.number m, s) := by
  rw [readValue.eq_def, skipSpace_of_not_space (not_space_of_isDigit h)]
  split
  case h_9 heq =>
    cases heq
    exact if_pos h
  -- the other values begin with a character that is no digit
  all_goals
    rename_i heq
    cases heq <;> cases h

theorem readValue_bracket_zero : readValue 0 ('[' :: s) = .error .malformed := rfl

theorem readValue_bracket :
    readValue (n + 1) ('[' :: s) =
      (parts ']' (item (readValue n)) (s.length + 1) true [] s).map fun (xs, s) =>
        (.array xs.reverse, s) := rfl

theorem readValue_brace_zero : readValue 0 ('\x7b' :: s) = .error .malformed := rfl

theorem readValue_brace :
    readValue (n + 1) ('\x7b' :: s) =
      (parts '\x7d' (member (readValue n)) (s.length + 1) true [] s).map fun (ms, s) =>
        (.object ms.reverse, s) := rfl

end Values

section ReadBack

variable {n : Nat} {r : List Char}

/-- What a reader that may enter `n` containers makes of the text of a tree. -/
def Reads (n : Nat) (j : Json) : Prop :=
  ∀ r, Ended r →
    readValue n (j.write ++ r) = if j.depth ≤ n then .ok (j, r) else .error .malformed

theorem write_starts {j : Json} (h : j.integral) :
    ∃ c s, j.write = c :: s ∧ isSpace c = false ∧ c ≠ ']' := by
  cases j with
  | null => exact ⟨'n', _, rfl, rfl, by decide⟩
  | bool b => cases b <;> exact ⟨_, _, rfl, rfl, by decide⟩
  | number m =>
    cases m with
    | real x => cases h
    | integer m =>
      by_cases negative : m < 0
      · exact ⟨'-', _, if_pos negative, rfl, by decide⟩
      · obtain ⟨d, ds, hd, digit⟩ := Text.digits_eq_cons m.natAbs
        refine ⟨d, ds, (if_neg negative).trans hd, not_space_of_isDigit digit, ?_⟩
        rintro rfl
        cases digit
  | text s => exact ⟨'"', _, rfl, rfl, by decide⟩
  | array items => exact ⟨'[', _, write_array items, rfl, by decide⟩
  | object members => exact ⟨'\x7b', _, write_object members, rfl, by decide⟩

theorem item_undone {x : Json} (h : x.integral) (hx : x.Reads n) :
    Undone ']' (item (readValue n)) write (keep fun x => x.depth ≤ n) x where
  starts := write_starts h
  read acc r hr := by
    rw [item, hx r hr, keep]
    split <;> rfl

theorem name_writeMember (m : String × Json) (r : List Char) :
    name readString (writeMember m ++ r) = .ok (m.1, ':' :: (m.2.write ++ r)) := by
  have text : writeMember m ++ r =
      '"' :: (m.1.toList.flatMap escapeChar ++ '"' :: ':' :: (m.2.write ++ r)) := by
    simp [writeMember, writeText]
  rw [text]
  exact readString_write m.1 _

theorem colon_cons (s : List Char) : colon (':' :: s) = .ok s := rfl

theorem member_undone {m : String × Json} (hm : m.2.Reads n) :
    Undone '\x7d' (member (readValue n)) writeMember (keep fun m => m.2.depth ≤ n) m where
  starts := ⟨'"', _, rfl, rfl, by decide⟩
  read acc r hr := by
    simp only [member, name_writeMember, bind, Except.bind, colon_cons, hm r hr, keep]
    by_cases fits : m.2.depth ≤ n
    · simp only [fits, ↓reduceIte]
      rfl
    · simp only [fits, ↓reduceIte]
      rfl

theorem readValue_integer (n : Nat) {m : Int} (h : (Number.integer m).inRange) (hr : Ended r) :
    readValue n (integerText m ++ r) = .ok (.number (.integer m), r) := by
  simp only [Number.inRange, Bool.and_eq_true, decide_eq_true_eq] at h
  by_cases negative : m < 0
  · have size : -(m.natAbs : Int) = m := by omega
    have read := readNumber_negative (n := m.natAbs) (by omega) (by omega) hr
    rw [integerText, if_pos negative, List.cons_append, readValue_minus, read, size]
    rfl
  · have size : (m.natAbs : Int) = m := by omega
    have fits : m.natAbs < UInt64.size := by
      rw [show UInt64.size = 0x10000000000000000 from rfl]
      omega
    have read := readNumber_unsigned fits hr
    obtain ⟨d, ds, hd, digit⟩ := Text.digits_eq_cons m.natAbs
    rw [integerText, if_neg negative, hd, List.cons_append, readValue_digit _ _ digit,
      ← List.cons_append, ← hd, read, size]
    rfl

theorem array_reads {items : List Json} (h : ∀ x ∈ items, x.integral)
    (ih : ∀ n, ∀ x ∈ items, x.Reads n) (n : Nat) : (array items).Reads n := by
  intro r hr
  rw [write_array, List.cons_append]
  cases n with
  | zero => rw [readValue_bracket_zero, if_neg (by simp [depth])]
  | succ n =>
    have all := parts_contents (.inl rfl) (fun x hx => item_undone (h x hx) (ih n x hx)) [] r
    have fits : (array items).depth ≤ n + 1 ↔ ∀ x ∈ items, x.depth ≤ n := by
      rw [depth, Nat.add_le_add_iff_right, depthItems_le]
    rw [readValue_bracket, all, foldlM_keep, if_congr fits rfl rfl]
    split
    · simp [Except.map]
    · rfl

theorem object_reads {members : List (String × Json)}
    (ih : ∀ n, ∀ m ∈ members, m.2.Reads n) (n : Nat) : (object members).Reads n := by
  intro r hr
  rw [write_object, List.cons_append]
  cases n with
  | zero => rw [readValue_brace_zero, if_neg (by simp [depth])]
  | succ n =>
    have all := parts_contents (.inr rfl) (fun m hm => member_undone (ih n m hm)) [] r
    have fits : (object members).depth ≤ n + 1 ↔ ∀ m ∈ members, m.2.depth ≤ n := by
      rw [depth, Nat.add_le_add_iff_right, depthMembers_le]
    rw [readValue_brace, all, foldlM_keep, if_congr fits rfl rfl]
    split
    · simp [Except.map]
    · rfl

/-- The text of a canonical tree without reals is read back if the reader may enter as many
containers as lie in one another, and is refused otherwise. -/
theorem readValue_write {j : Json} (hc : j.canonical) (hi : j.integral) (n : Nat) : j.Reads n := by
  induction j using Json.induct generalizing n with
  | null =>
    intro r _
    exact (readValue_n n _).trans rfl
  | bool b =>
    intro r _
    cases b with
    | false => exact (readValue_f n _).trans rfl
    | true => exact (readValue_t n _).trans rfl
  | number m =>
    intro r hr
    cases m with
    | real x => cases hi
    | integer m => exact readValue_integer n hc hr
  | text s =>
    intro r _
    have text : (Json.text s).write ++ r = '"' :: (s.toList.flatMap escapeChar ++ '"' :: r) := by
      simp [write, writeText]
    rw [text, readValue_quote, readString_write]
    rfl
  | array items ih =>
    rw [canonical, canonicalItems_iff] at hc
    rw [integral, integralItems_iff] at hi
    exact array_reads hi (fun n x hx => ih x hx (hc x hx) (hi x hx) n) n
  | object members ih =>
    rw [canonical, Bool.and_eq_true, canonicalMembers_iff] at hc
    rw [integral, integralMembers_iff] at hi
    exact object_reads (fun n m hm => ih m hm (hc.2 m hm) (hi m hm) n) n

theorem Document.ofTree?_tree (d : Document) : Document.ofTree? d.tree = some d := by
  have same := tidy_of_canonical d.canonical
  rw [ofTree?, dif_pos (by rw [same]; exact d.canonical)]
  simp [same]

/-- A document without reals is read back from its text if it is no deeper than a reader goes. -/
theorem Document.ofText?_text (d : Document) (h : d.tree.integral) :
    Document.ofText? d.text = if d.tree.depth ≤ maxDepth then some d else none := by
  have read := readValue_write d.canonical h maxDepth [] ended_nil
  rw [List.append_nil] at read
  rw [ofText?, text, String.toList_ofList, whole, read]
  by_cases fits : d.tree.depth ≤ maxDepth
  · simp only [fits, ↓reduceIte]
    exact ofTree?_tree d
  · simp only [fits, ↓reduceIte]
    rfl

end ReadBack

end QueryPool.Json
