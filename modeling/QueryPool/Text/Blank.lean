namespace QueryPool.Text

/-- The characters with the Unicode property `White_Space`. -/
def isBlank (c : Char) : Bool :=
  let n := c.toNat
  (0x9 ≤ n && n ≤ 0xD) || n = 0x20 || n = 0x85 || n = 0xA0 || n = 0x1680 ||
    (0x2000 ≤ n && n ≤ 0x200A) || n = 0x2028 || n = 0x2029 || n = 0x202F || n = 0x205F ||
    n = 0x3000

theorem not_isBlank_of_isDigit {c : Char} (h : c.isDigit) : ¬isBlank c := by
  simp only [Char.isDigit, Bool.and_eq_true, decide_eq_true_eq, ge_iff_le,
    UInt32.le_iff_toNat_le] at h
  have low : 48 ≤ c.toNat := h.1
  have high : c.toNat ≤ 57 := h.2
  simp [isBlank]
  omega

def trimLeft (s : List Char) : List Char := s.dropWhile isBlank

theorem trimLeft_of_not_blank {c : Char} (h : ¬isBlank c) (s : List Char) :
    trimLeft (c :: s) = c :: s :=
  List.dropWhile_cons_of_neg h

def trimRight (s : List Char) : List Char := (trimLeft s.reverse).reverse

def trim (s : List Char) : List Char := trimRight (trimLeft s)

/-- `t` is what `s` holds between the blanks around it. -/
structure Trims (s t : List Char) : Prop where
  around : ∃ before after, s = before ++ t ++ after ∧
    (∀ c ∈ before, isBlank c = true) ∧ ∀ c ∈ after, isBlank c = true
  first : ∀ c, t.head? = some c → isBlank c = false
  last : ∀ c, t.getLast? = some c → isBlank c = false

variable {s t : List Char}

theorem trimLeft_self (h : ∀ c, s.head? = some c → isBlank c = false) : trimLeft s = s := by
  cases s with
  | nil => rfl
  | cons c s =>
    have hc := h c rfl
    exact trimLeft_of_not_blank (by simp [hc]) s

theorem trimRight_self (h : ∀ c, s.getLast? = some c → isBlank c = false) : trimRight s = s := by
  have hr : trimLeft s.reverse = s.reverse := trimLeft_self (by simpa using h)
  rw [trimRight, hr, List.reverse_reverse]

theorem trimRight_append (s : List Char) {after : List Char}
    (h : ∀ c ∈ after, isBlank c = true) : trimRight (s ++ after) = trimRight s := by
  have hr : ∀ c ∈ after.reverse, isBlank c = true := by simpa using h
  rw [trimRight, trimRight, List.reverse_append, trimLeft, List.dropWhile_append_of_pos hr]
  rfl

theorem trimLeft_first {c : Char} (h : (trimLeft s).head? = some c) : isBlank c = false := by
  have hs := List.head?_dropWhile_not isBlank s
  rw [← trimLeft, h] at hs
  exact hs

theorem trim_eq_of_trims (h : Trims s t) : trim s = t := by
  obtain ⟨before, after, rfl, blankBefore, blankAfter⟩ := h.around
  have left : trimLeft (before ++ t ++ after) = trimLeft (t ++ after) := by
    rw [trimLeft, List.append_assoc, List.dropWhile_append_of_pos blankBefore]
    rfl
  rw [trim, left]
  cases t with
  | nil =>
    have gone : trimLeft (after ++ []) = [] := List.dropWhile_append_of_pos blankAfter
    rw [List.append_nil] at gone
    rw [List.nil_append, gone]
    rfl
  | cons c t =>
    have stays : trimLeft (c :: t ++ after) = c :: t ++ after := trimLeft_self h.first
    rw [stays, trimRight_append _ blankAfter]
    exact trimRight_self h.last

theorem trims_trim (s : List Char) : Trims s (trim s) := by
  let before := s.takeWhile isBlank
  let after := ((trimLeft s).reverse.takeWhile isBlank).reverse
  have left : before ++ trimLeft s = s := List.takeWhile_append_dropWhile
  have right : trim s ++ after = trimLeft s := by
    rw [trim, trimRight, trimLeft, ← List.reverse_append, List.takeWhile_append_dropWhile,
      List.reverse_reverse]
  have blankBefore : ∀ c ∈ before, isBlank c = true := List.all_eq_true.1 List.all_takeWhile
  have blankAfter : ∀ c ∈ (trimLeft s).reverse.takeWhile isBlank, isBlank c = true :=
    List.all_eq_true.1 List.all_takeWhile
  refine ⟨⟨before, after, ?_, blankBefore, fun c hc => blankAfter c (List.mem_reverse.1 hc)⟩,
    ?_, ?_⟩
  · rw [List.append_assoc, right, left]
  · intro c hc
    apply trimLeft_first (s := s)
    rw [← right, List.head?_append, hc]
    rfl
  · intro c hc
    rw [trim, trimRight, List.getLast?_reverse] at hc
    exact trimLeft_first hc

theorem trim_eq_iff : trim s = t ↔ Trims s t :=
  ⟨fun h => h ▸ trims_trim s, trim_eq_of_trims⟩

theorem trim_trim (s : List Char) : trim (trim s) = trim s :=
  trim_eq_of_trims ⟨⟨[], [], by simp, by simp, by simp⟩, (trims_trim s).first, (trims_trim s).last⟩

theorem mem_of_mem_trim {c : Char} (h : c ∈ trim s) : c ∈ s := by
  obtain ⟨before, after, hs, _⟩ := (trims_trim s).around
  rw [hs]
  simp [h]

end QueryPool.Text
