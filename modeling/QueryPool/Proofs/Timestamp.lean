import Mathlib.Algebra.Group.Nat.Defs
import Mathlib.Data.List.TakeWhile
import QueryPool.Timestamp.Text

namespace QueryPool

namespace Text

theorem length_padded {width n : Nat} (hw : 0 < width) (h : n < 10 ^ width) :
    (padded width n).length = width := by
  have short : (digits n).length ≤ width := (Nat.length_toDigits_le_iff (by decide) hw).mpr h
  rw [padded, List.length_leftpad, Nat.max_eq_left short]

/-- Zeros behind the digits scale the number. -/
theorem digitsValue_append_zeros (s : List Char) (k : Nat) :
    digitsValue (s ++ List.replicate k '0') = 10 ^ k * digitsValue s := by
  rw [digitsValue, Nat.ofDigitChars_append, Nat.ofDigitChars_replicate_zero]
  rfl

end Text

namespace Timestamp

/-- A reader takes the digits in front if they fill the field or something else follows them. -/
theorem digitField_append {limit : Nat} {ds r : List Char} (digit : ∀ c ∈ ds, c.isDigit)
    (hne : ds ≠ []) (fits : ds.length ≤ limit)
    (stop : ds.length = limit ∨ ∀ c ∈ r.head?, ¬c.isDigit) :
    digitField limit (ds ++ r) = some (Text.digitsValue ds, r) := by
  have past : (r.take (limit - ds.length)).takeWhile Char.isDigit = [] := by
    obtain full | stop := stop
    · rw [full, Nat.sub_self]
      rfl
    · cases r with
      | nil => simp
      | cons c r =>
        have hc := stop c rfl
        cases limit - ds.length <;> simp [hc]
  have run : ((ds ++ r).take limit).takeWhile Char.isDigit = ds := by
    rw [List.take_append, List.take_of_length_le fits, List.takeWhile_append_of_pos digit, past,
      List.append_nil]
  simp only [digitField, run]
  cases ds with
  | nil => exact absurd rfl hne
  | cons d ds => simp

theorem mark_cons (c : Char) (s : List Char) : mark c (c :: s) = some s := if_pos rfl

theorem numberField_blank (limit : Nat) (s : List Char) :
    numberField limit (' ' :: s) = numberField limit s := rfl

theorem numberField_padded {n : Nat} (h : n < 100) (r : List Char) :
    numberField 2 (Text.padded 2 n ++ r) = some (n, r) := by
  have width : (Text.padded 2 n).length = 2 := Text.length_padded (by decide) h
  have read := digitField_append (r := r) (fun _ => Text.isDigit_of_mem_padded)
    (Text.padded_ne_nil 2 n) (Nat.le_of_eq width) (.inl width)
  obtain ⟨d, ds, hp, hd⟩ := Text.padded_eq_cons 2 n
  rw [Text.digitsValue_padded] at read
  rw [hp, List.cons_append] at read ⊢
  rw [numberField, Text.trimLeft_of_not_blank (Text.not_isBlank_of_isDigit hd)]
  exact read

theorem yearField_of_isDigit {d : Char} (h : d.isDigit) (s : List Char) :
    yearField (d :: s) = (digitField 4 (d :: s)).map fun (n, s) => ((n : Int), s) := by
  have minus : d ≠ '-' := by
    rintro rfl
    cases h
  have plus : d ≠ '+' := by
    rintro rfl
    cases h
  rw [yearField, Text.trimLeft_of_not_blank (Text.not_isBlank_of_isDigit h)]
  split <;> simp_all

/-- A year is read whether it carries a sign or not. -/
theorem yearField_yearText (year : Int) (s : List Char) :
    yearField (yearText year ++ '-' :: s) = some (year, '-' :: s) := by
  have digit : ∀ c ∈ Text.padded 4 year.natAbs, c.isDigit := fun _ => Text.isDigit_of_mem_padded
  have hne := Text.padded_ne_nil 4 year.natAbs
  have dash : ∀ c ∈ ('-' :: s).head?, ¬c.isDigit := by simp [Char.isDigit]
  by_cases plain : 0 ≤ year ∧ year ≤ 9999
  · have width : (Text.padded 4 year.natAbs).length = 4 := Text.length_padded (by decide) (by omega)
    have read := digitField_append digit hne (Nat.le_of_eq width) (.inr dash)
    obtain ⟨d, ds, hp, hd⟩ := Text.padded_eq_cons 4 year.natAbs
    rw [Text.digitsValue_padded] at read
    rw [yearText, if_pos plain]
    rw [hp, List.cons_append] at read ⊢
    rw [yearField_of_isDigit hd, read]
    simp
    omega
  · have fits : (Text.padded 4 year.natAbs).length ≤
        (Text.padded 4 year.natAbs ++ '-' :: s).length := by simp
    have read := digitField_append digit hne fits (.inr dash)
    rw [Text.digitsValue_padded] at read
    rw [yearText, if_neg plain]
    by_cases negative : year < 0
    · rw [if_pos negative, List.cons_append, yearField, Text.trimLeft_of_not_blank (by decide)]
      simp only [read, Option.map_some]
      congr
      omega
    · rw [if_neg negative, List.cons_append, yearField, Text.trimLeft_of_not_blank (by decide)]
      simp only [read, Option.map_some]
      congr
      omega

/-- Places that are not written are zeros. -/
theorem fractionField_padded {places n : Nat} (hp : 0 < places) (fits : places ≤ 9)
    (h : n < 10 ^ places) :
    fractionField ('.' :: Text.padded places n) = some (10 ^ (9 - places) * n, []) := by
  have width : (Text.padded places n).length = places := Text.length_padded hp h
  have run : ((Text.padded places n).take 9).takeWhile Char.isDigit = Text.padded places n := by
    rw [List.take_of_length_le (by omega), List.takeWhile_eq_self_iff]
    exact fun _ => Text.isDigit_of_mem_padded
  have scaled : Text.digitsValue ((Text.padded places n).rightpad 9 '0') =
      10 ^ (9 - places) * n := by
    rw [List.rightpad, Text.digitsValue_append_zeros, Text.digitsValue_padded, width]
  simp only [fractionField, run]
  cases hd : Text.padded places n with
  | nil => exact absurd hd (Text.padded_ne_nil places n)
  | cons d ds =>
    rw [hd] at scaled
    simp only [scaled]
    simp

theorem fractionField_fractionText {nanos : Nat} (h : nanos < 1_000_000_000) :
    fractionField (fractionText nanos) = some (nanos, []) := by
  rw [fractionText]
  split
  · next zero => rw [zero]; rfl
  split
  · rw [fractionField_padded (by decide) (by decide) (by omega)]
    simp
    omega
  split
  · rw [fractionField_padded (by decide) (by decide) (by omega)]
    simp
    omega
  · rw [fractionField_padded (by decide) (by decide) (by omega)]
    simp

theorem isTime_iff {hour minute second nanos : Nat} : isTime hour minute second nanos = true ↔
    ((hour < 24 ∧ minute < 60) ∧ second < 60) ∧ nanos < 2_000_000_000 := by
  simp only [isTime, Bool.and_eq_true, decide_eq_true_eq]

/-- A leap second that does not end its minute is another second of it, a leap second no more. -/
def carried (t : Timestamp) : Timestamp :=
  if h : 1_000_000_000 ≤ t.nanos ∧ t.second ≠ 59 then
    { t with
      second := t.second + 1
      nanos := t.nanos - 1_000_000_000
      time := by
        have ht := isTime_iff.mp t.time
        exact isTime_iff.mpr ⟨⟨ht.1.1, by omega⟩, by omega⟩ }
  else t

/-- The last second of a minute, and a second without a leap second, stay what they are. -/
theorem carried_eq_self {t : Timestamp} (h : t.nanos < 1_000_000_000 ∨ t.second = 59) :
    t.carried = t := dif_neg (by omega)

/-- It stays within its minute. -/
theorem carried_minute (t : Timestamp) : t.carried.year = t.year ∧ t.carried.month = t.month ∧
    t.carried.day = t.day ∧ t.carried.hour = t.hour ∧ t.carried.minute = t.minute := by
  unfold carried
  split <;> exact ⟨rfl, rfl, rfl, rfl, rfl⟩

/-- Only the leap second at the end of a minute is told apart by its number. -/
theorem secondAndNanos_written (t : Timestamp) :
    secondAndNanos (t.second + t.nanos / 1_000_000_000) (t.nanos % 1_000_000_000) =
      (t.carried.second, t.carried.nanos) := by
  have ht := isTime_iff.mp t.time
  rw [secondAndNanos]
  unfold carried
  split <;> split <;> simp <;> omega

theorem of?_fields (t : Timestamp) :
    of? t.year t.month t.day t.hour t.minute t.second t.nanos = some t := by
  rw [of?, dif_pos t.date, dif_pos t.time]

theorem of?_carried (t : Timestamp) :
    of? t.year t.month t.day t.hour t.minute t.carried.second t.carried.nanos =
      some t.carried := by
  obtain ⟨year, month, day, hour, minute⟩ := t.carried_minute
  have named := of?_fields t.carried
  rwa [year, month, day, hour, minute] at named

theorem daysIn_le (year : Int) (month : Nat) : daysIn year month ≤ 31 := by
  rw [daysIn.eq_def]
  split
  · split <;> decide
  all_goals decide

/-- Up to the second both formats read a written timestamp alike. -/
theorem ofChars?_write (fraction : List Char → Option (Nat × List Char)) (t : Timestamp) :
    ofChars? fraction (t.writeWith ' ') =
      (fraction (fractionText (t.nanos % 1_000_000_000))).bind fun (nanos, s) =>
        let (second, nanos) := secondAndNanos (t.second + t.nanos / 1_000_000_000) nanos
        if s = [] then of? t.year t.month t.day t.hour t.minute second nanos else none := by
  have date := t.date
  have time := isTime_iff.mp t.time
  have days := daysIn_le t.year t.month
  simp only [isDate, Bool.and_eq_true, decide_eq_true_eq] at date
  have seconds : t.second + t.nanos / 1_000_000_000 < 100 := by omega
  simp only [ofChars?, writeWith, List.append_assoc, List.cons_append, yearField_yearText,
    Option.bind_eq_bind, Option.bind_some, mark_cons, numberField_blank,
    numberField_padded (show t.month < 100 by omega),
    numberField_padded (show t.day < 100 by omega),
    numberField_padded (show t.hour < 100 by omega),
    numberField_padded (show t.minute < 100 by omega), numberField_padded seconds]

/-- Every timestamp is read back from its text, by the format that fits it, but for a leap second
that was carried. -/
theorem ofText?_text (t : Timestamp) : ofText? t.text = some t.carried := by
  have below : t.nanos % 1_000_000_000 < 1_000_000_000 := Nat.mod_lt _ (by decide)
  have second := secondAndNanos_written t
  have full : ofChars? fractionField (t.writeWith ' ') = some t.carried := by
    rw [ofChars?_write, fractionField_fractionText below]
    simp only [Option.bind_some, second, ↓reduceIte]
    exact of?_carried t
  rw [ofText?, text, String.toList_ofList, full, ofChars?_write]
  by_cases whole : t.nanos % 1_000_000_000 = 0
  · rw [whole] at second ⊢
    simp only [fractionText, noFraction, Option.bind_some, second, ↓reduceIte]
    rw [of?_carried]
    rfl
  · have rest : fractionText (t.nanos % 1_000_000_000) ≠ [] := by
      rw [fractionText, if_neg whole]
      split
      · exact List.cons_ne_nil _ _
      split <;> exact List.cons_ne_nil _ _
    simp only [noFraction, Option.bind_some, rest, ↓reduceIte]
    rfl

end Timestamp
end QueryPool
