import QueryPool.Statement.Placeholder

namespace QueryPool

/-- What keeps a text out of the statement proper. -/
inductive Cover where
  | quote (mark : Char) (real : isQuote mark = true)
  | line
  | block
  deriving DecidableEq

namespace Cover

def opening : Cover → List Char
  | quote q _ => [q]
  | line => ['-', '-']
  | block => ['/', '*']

def closing : Cover → List Char
  | quote q _ => [q]
  | line => ['\n']
  | block => ['*', '/']

/-- Whether a backslash takes the character after it into the body. -/
def escapes : Cover → Bool
  | quote q _ => q ≠ '\x60'
  | line | block => false

def place : Cover → Place
  | quote q _ => .quoted q
  | line => .lineComment
  | block => .blockComment

/-- `body` can be covered when `rest` follows it: nowhere in it the closing begins, escaped
characters apart. -/
inductive Spans (k : Cover) : (body rest : List Char) → Prop
  | nil {rest : List Char} : Spans k [] rest
  | plain {c : Char} {body rest : List Char} (inside : ¬ k.closing <+: c :: (body ++ rest))
      (ordinary : c = '\\' → k.escapes = false) (more : Spans k body rest) : Spans k (c :: body) rest
  | escaped {c : Char} {body rest : List Char} (escapes : k.escapes = true)
      (more : Spans k body rest) : Spans k ('\\' :: c :: body) rest
  /-- a backslash at the very end escapes nothing -/
  | last (escapes : k.escapes = true) : Spans k ['\\'] []

end Cover

/-- A piece of a statement. What is not closed goes on to the end. -/
inductive Segment where
  | bare (c : Char)
  | covered (cover : Cover) (body : List Char) (closed : Bool)
  deriving DecidableEq

namespace Segment

def text : Segment → List Char
  | bare c => [c]
  | covered k body closed => k.opening ++ (body ++ if closed then k.closing else [])

/-- What a segment keeps out of the statement. -/
def body : Segment → List Char
  | bare _ => []
  | covered _ body _ => body

/-- A segment can stand before `rest`: a single character is where nothing is opened, and what is
covered goes on to its first closing. -/
def Fits : Segment → List Char → Prop
  | bare c, rest => ∀ k : Cover, ¬ k.opening <+: c :: rest
  | covered k body true, rest => k.Spans body (k.closing ++ rest)
  | covered k body false, rest => rest = [] ∧ k.Spans body []

end Segment

/-- A text as a row of segments. -/
inductive Splits : List Char → List Segment → Prop
  | nil : Splits [] []
  | cons {seg : Segment} {rest : List Char} {segs : List Segment} (fits : seg.Fits rest)
      (more : Splits rest segs) : Splits (seg.text ++ rest) (seg :: segs)

namespace Cover

variable {k k' : Cover} {body body' rest rest' s s' : List Char}

theorem isQuote_iff {c : Char} : isQuote c = true ↔ c = '\'' ∨ c = '"' ∨ c = '\x60' := by
  simp [isQuote, or_assoc]

theorem closing_ne_nil (k : Cover) : k.closing ≠ [] := by
  cases k <;> simp [closing]

/-- A closing is never mistaken for an escape. -/
theorem closing_not_escape (escapes : k.escapes = true) : ¬ k.closing <+: '\\' :: s := by
  cases k with
  | quote q real =>
    intro h
    have hq : q = '\\' := (List.cons_prefix_cons.1 h).1
    subst hq
    cases real
  | line | block => cases escapes

/-- The text from the first closing on, or nothing. -/
def Ended (k : Cover) (rest : List Char) : Prop := rest = [] ∨ k.closing <+: rest

/-- Nothing is covered where the text is closed or ends. -/
theorem Spans.eq_nil (h : k.Spans body rest) (ended : k.Ended (body ++ rest)) : body = [] := by
  cases h with
  | nil => rfl
  | plain inside =>
    rcases ended with none | closes
    · cases none
    · exact (inside closes).elim
  | escaped escapes | last escapes =>
    rcases ended with none | closes
    · cases none
    · exact (closing_not_escape escapes closes).elim

/-- Where backslashes escape, a plain character is none. -/
theorem not_escape {c : Char} (ordinary : c = '\\' → k.escapes = false)
    (escapes : k.escapes = true) (same : c :: s = '\\' :: s') : False := by
  obtain ⟨rfl, _⟩ := List.cons.inj same
  rw [ordinary rfl] at escapes
  cases escapes

/-- Where a cover ends is settled by its text. -/
theorem Spans.unique (h : k.Spans body rest) (h' : k.Spans body' rest') (ended : k.Ended rest)
    (ended' : k.Ended rest') (same : body ++ rest = body' ++ rest') :
    body = body' ∧ rest = rest' := by
  induction h generalizing body' with
  | nil =>
    rw [List.nil_append] at same
    obtain rfl := h'.eq_nil (by rwa [← same])
    exact ⟨rfl, same⟩
  | plain inside ordinary more ih =>
    cases h' with
    | nil =>
      cases (Spans.plain inside ordinary more).eq_nil (by rwa [same])
    | plain _ _ more' =>
      rw [List.cons_append, List.cons_append, List.cons.injEq] at same
      obtain ⟨rfl, tail⟩ := same
      obtain ⟨rfl, rfl⟩ := ih more' ended tail
      exact ⟨rfl, rfl⟩
    | escaped escapes | last escapes => exact (not_escape ordinary escapes same).elim
  | escaped escapes more ih =>
    cases h' with
    | nil =>
      cases (Spans.escaped escapes more).eq_nil (by rwa [same])
    | plain _ ordinary => exact (not_escape ordinary escapes same.symm).elim
    | escaped _ more' =>
      simp only [List.cons_append, List.cons.injEq, true_and] at same
      obtain ⟨rfl, tail⟩ := same
      obtain ⟨rfl, rfl⟩ := ih more' ended tail
      exact ⟨rfl, rfl⟩
    | last => cases same
  | last escapes =>
    cases h' with
    | nil =>
      cases (Spans.last escapes).eq_nil (by rwa [same])
    | plain _ ordinary => exact (not_escape ordinary escapes same.symm).elim
    | escaped => cases same
    | last => exact ⟨rfl, rfl⟩

/-- Every text runs to its first closing or to its end. -/
theorem exists_spans (k : Cover) (s : List Char) :
    ∃ body rest, s = body ++ rest ∧ k.Spans body rest ∧ k.Ended rest := by
  induction hn : s.length using Nat.strongRecOn generalizing s with
  | ind n ih =>
    subst hn
    cases s with
    | nil => exact ⟨[], [], rfl, .nil, .inl rfl⟩
    | cons c s =>
      by_cases closes : k.closing <+: c :: s
      · exact ⟨[], c :: s, rfl, .nil, .inr closes⟩
      by_cases escape : c = '\\' ∧ k.escapes = true
      · obtain ⟨rfl, escapes⟩ := escape
        cases s with
        | nil => exact ⟨['\\'], [], rfl, .last escapes, .inl rfl⟩
        | cons d s =>
          have shorter : s.length < ('\\' :: d :: s).length := by
            simp only [List.length_cons]
            omega
          obtain ⟨body, rest, rfl, spans, ended⟩ := ih s.length shorter s rfl
          exact ⟨'\\' :: d :: body, rest, rfl, .escaped escapes spans, ended⟩
      · obtain ⟨body, rest, rfl, spans, ended⟩ := ih s.length (by simp) s rfl
        have ordinary : c = '\\' → k.escapes = false := by simpa using escape
        exact ⟨c :: body, rest, rfl, .plain closes ordinary spans, ended⟩

theorem opening_unique (same : k.opening ++ s = k'.opening ++ s') : k = k' ∧ s = s' := by
  cases k with
  | quote q real =>
    cases k' with
    | quote q' real' =>
      obtain ⟨rfl, rfl⟩ := List.cons.inj same
      exact ⟨rfl, rfl⟩
    | line | block =>
      obtain ⟨rfl, _⟩ := List.cons.inj same
      cases real
  | line | block =>
    cases k' with
    | quote q real =>
      obtain ⟨rfl, _⟩ := List.cons.inj same
      cases real
    | line | block =>
      simp only [opening, List.cons_append, List.nil_append, List.cons.injEq] at same
      simp_all

theorem placeholders_opening (k : Cover) (s : List Char) :
    placeholders .code (k.opening ++ s) = placeholders k.place s := by
  cases k with
  | quote q real =>
    rcases isQuote_iff.1 real with rfl | rfl | rfl <;> rfl
  | line | block => rfl

theorem placeholders_closing (k : Cover) (s : List Char) :
    placeholders k.place (k.closing ++ s) = placeholders .code s := by
  cases k with
  | quote q real =>
    rcases isQuote_iff.1 real with rfl | rfl | rfl <;> simp [place, closing, placeholders]
  | line => simp [place, closing, placeholders]
  | block => rfl

/-- No question mark opens or closes anything. -/
theorem marks_around (k : Cover) : k.opening.count '?' = 0 ∧ k.closing.count '?' = 0 := by
  cases k with
  | quote q real => rcases isQuote_iff.1 real with rfl | rfl | rfl <;> exact ⟨rfl, rfl⟩
  | line | block => decide

/-- Nothing in a body is a placeholder. -/
theorem Spans.placeholders (h : k.Spans body rest) :
    placeholders k.place (body ++ rest) = QueryPool.placeholders k.place rest := by
  induction h with
  | nil => rfl
  | @plain c body rest inside ordinary _ ih =>
    rw [← ih, List.cons_append]
    generalize body ++ rest = s at inside
    cases k with
    | quote q real =>
      have other : c ≠ q := fun h => inside (by simp [closing, h])
      simp only [place]
      rw [QueryPool.placeholders.eq_def]
      split <;> simp_all [escapes]
    | line =>
      have other : c ≠ '\n' := fun h => inside (by simp [closing, h])
      simp only [place, QueryPool.placeholders, other, if_false]
    | block =>
      simp only [place]
      rw [QueryPool.placeholders.eq_def]
      split <;> simp_all [closing]
  | @escaped c body rest escapes _ ih =>
    cases k with
    | quote q real =>
      have other : q ≠ '\x60' := by simpa [Cover.escapes] using escapes
      rw [← ih]
      simp only [place, List.cons_append, QueryPool.placeholders, other, if_false]
    | line | block => cases escapes
  | last escapes =>
    cases k with
    | quote q real => simp [place, QueryPool.placeholders]
    | line | block => cases escapes

end Cover

namespace Segment

variable {seg seg' : Segment} {rest rest' : List Char}

theorem text_ne_nil (seg : Segment) : seg.text ≠ [] := by
  cases seg with
  | bare c => simp [text]
  | covered k body closed => cases k <;> simp [text, Cover.opening]

/-- What follows a covered body, its closing included. -/
theorem Fits.spans {k : Cover} {body : List Char} {closed : Bool}
    (h : (covered k body closed).Fits rest) :
    k.Spans body ((if closed then k.closing else []) ++ rest) ∧
      k.Ended ((if closed then k.closing else []) ++ rest) := by
  cases closed with
  | true => exact ⟨h, .inr (List.prefix_append _ _)⟩
  | false =>
    obtain ⟨rfl, spans⟩ := h
    exact ⟨spans, .inl rfl⟩

theorem Fits.closed_unique {k : Cover} {body : List Char} {closed closed' : Bool}
    (h : (covered k body closed).Fits rest) (h' : (covered k body closed').Fits rest')
    (same : (if closed then k.closing else []) ++ rest =
      (if closed' then k.closing else []) ++ rest') : closed = closed' ∧ rest = rest' := by
  cases closed <;> cases closed'
  · exact ⟨rfl, same⟩
  · obtain ⟨rfl, _⟩ := h
    exact (k.closing_ne_nil (List.append_eq_nil_iff.1 same.symm).1).elim
  · obtain ⟨rfl, _⟩ := h'
    exact (k.closing_ne_nil (List.append_eq_nil_iff.1 same).1).elim
  · exact ⟨rfl, List.append_cancel_left same⟩

/-- The first segment of a text is settled by the text. -/
theorem Fits.unique (h : seg.Fits rest) (h' : seg'.Fits rest')
    (same : seg.text ++ rest = seg'.text ++ rest') : seg = seg' ∧ rest = rest' := by
  cases seg with
  | bare c =>
    cases seg' with
    | bare c' =>
      obtain ⟨rfl, rfl⟩ := List.cons.inj same
      exact ⟨rfl, rfl⟩
    | covered k body closed =>
      refine (h k ?_).elim
      simp only [text, List.cons_append, List.nil_append, List.append_assoc] at same
      exact same ▸ List.prefix_append _ _
  | covered k body closed =>
    cases seg' with
    | bare c =>
      refine (h' k ?_).elim
      simp only [text, List.cons_append, List.nil_append, List.append_assoc] at same
      exact same ▸ List.prefix_append _ _
    | covered k' body' closed' =>
      simp only [text, List.append_assoc] at same
      obtain ⟨rfl, same⟩ := Cover.opening_unique same
      obtain ⟨spans, ended⟩ := h.spans
      obtain ⟨spans', ended'⟩ := h'.spans
      obtain ⟨rfl, after⟩ := spans.unique spans' ended ended' same
      obtain ⟨rfl, rfl⟩ := h.closed_unique h' after
      exact ⟨rfl, rfl⟩

/-- A segment is one placeholder or none, whatever follows it. -/
theorem Fits.placeholders (h : seg.Fits rest) :
    placeholders .code (seg.text ++ rest) =
      (if seg = .bare '?' then 1 else 0) + QueryPool.placeholders .code rest := by
  cases seg with
  | bare c =>
    have plain : isQuote c = false := by
      rw [← Bool.not_eq_true]
      exact fun quote => h (.quote c quote) (by simp [Cover.opening])
    have noLine : ¬ ['-', '-'] <+: c :: rest := h .line
    have noBlock : ¬ ['/', '*'] <+: c :: rest := h .block
    simp only [text, List.cons_append, List.nil_append, bare.injEq]
    rw [QueryPool.placeholders.eq_def]
    -- of the scanner's cases only that of a single character is left
    split <;> simp_all
    split <;> omega
  | covered k body closed =>
    obtain ⟨spans, _⟩ := h.spans
    simp only [text, List.append_assoc, Cover.placeholders_opening, spans.placeholders, reduceCtorEq,
      if_false, Nat.zero_add]
    cases closed with
    | true => exact k.placeholders_closing rest
    | false =>
      obtain ⟨rfl, _⟩ := h
      simp [QueryPool.placeholders]

theorem marks (seg : Segment) :
    seg.text.count '?' = (if seg = .bare '?' then 1 else 0) + seg.body.count '?' := by
  cases seg with
  | bare c => simp [text, body, List.count_singleton]
  | covered k b closed =>
    obtain ⟨opening, closing⟩ := k.marks_around
    cases closed <;> simp [text, body, opening, closing]

end Segment

namespace Splits

variable {s : List Char} {segs segs' : List Segment}

theorem unique (h : Splits s segs) (h' : Splits s segs') : segs = segs' := by
  induction h generalizing segs' with
  | nil =>
    generalize hs : [] = s at h'
    cases h' with
    | nil => rfl
    | cons => exact (Segment.text_ne_nil _ (List.append_eq_nil_iff.1 hs.symm).1).elim
  | @cons seg rest segs fits _ ih =>
    generalize hs : seg.text ++ rest = s at h'
    cases h' with
    | nil => exact (Segment.text_ne_nil _ (List.append_eq_nil_iff.1 hs).1).elim
    | cons fits' more' =>
      obtain ⟨rfl, rfl⟩ := fits.unique fits' hs
      rw [ih more']

/-- Every text begins with a segment. -/
theorem exists_first (c : Char) (s : List Char) :
    ∃ (seg : Segment) (rest : List Char), c :: s = seg.text ++ rest ∧ seg.Fits rest := by
  by_cases opens : ∃ k : Cover, k.opening <+: c :: s
  · obtain ⟨k, inside, opened⟩ := opens
    obtain ⟨body, rest, rfl, spans, rfl | closes⟩ := k.exists_spans inside
    · exact ⟨.covered k body false, [], by simp [Segment.text, ← opened], rfl, spans⟩
    · obtain ⟨rest, rfl⟩ := closes
      exact ⟨.covered k body true, rest, by simp [Segment.text, ← opened], spans⟩
  · exact ⟨.bare c, s, rfl, not_exists.1 opens⟩

theorem exists_splits (s : List Char) : ∃ segs, Splits s segs := by
  induction hn : s.length using Nat.strongRecOn generalizing s with
  | ind n ih =>
    subst hn
    cases s with
    | nil => exact ⟨[], .nil⟩
    | cons c s =>
      obtain ⟨seg, rest, same, fits⟩ := exists_first c s
      have shorter : rest.length < (c :: s).length := by
        rw [same, List.length_append]
        have := List.length_pos_iff.2 seg.text_ne_nil
        omega
      obtain ⟨segs, more⟩ := ih rest.length shorter rest rfl
      rw [same]
      exact ⟨seg :: segs, .cons fits more⟩

theorem placeholders (h : Splits s segs) : placeholders .code s = segs.count (.bare '?') := by
  induction h with
  | nil => rfl
  | cons fits _ ih =>
    rw [fits.placeholders, ih, List.count_cons, Nat.add_comm]
    simp only [beq_iff_eq]

/-- A question mark is a placeholder, or some segment keeps it out of the statement. -/
theorem marks (h : Splits s segs) :
    s.count '?' = segs.count (.bare '?') + (segs.flatMap (·.body)).count '?' := by
  induction h with
  | nil => rfl
  | @cons seg rest segs _ _ ih =>
    rw [List.count_append, seg.marks, ih, List.count_cons, List.flatMap_cons, List.count_append]
    simp only [beq_iff_eq]
    omega

end Splits
end QueryPool
