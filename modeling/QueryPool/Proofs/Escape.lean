import QueryPool.Proofs.Connection.Retry
import QueryPool.Proofs.Statement.Segments
import QueryPool.Sqlite.Cell

namespace QueryPool

namespace Text

/-- What a character stands for after a backslash. -/
def afterBackslash : Char → Char
  | '0' => '\x00'
  | 'n' => '\n'
  | 'r' => '\r'
  | 'Z' => '\x1a'
  | c => c

/-- Reads a literal up to its closing `mark`, where a backslash takes the next character: what the
literal stands for, and what follows it. -/
def readBackslashed (mark : Char) : List Char → Option (List Char × List Char)
  | [] => none
  | '\\' :: c :: s => (readBackslashed mark s).map fun (t, rest) => (afterBackslash c :: t, rest)
  | c :: s =>
    if c = mark then some ([], s) else (readBackslashed mark s).map fun (t, rest) => (c :: t, rest)

/-- Reads a literal up to its closing single quote, where two of them stand for one. -/
def readDoubled : List Char → Option (List Char × List Char)
  | [] => none
  | '\'' :: '\'' :: s => (readDoubled s).map fun (t, rest) => ('\'' :: t, rest)
  | c :: s => if c = '\'' then some ([], s) else (readDoubled s).map fun (t, rest) => (c :: t, rest)

/-- Ways to write a character in a literal of backslash rules. -/
inductive Written (mark c : Char) : List Char → Prop
  | plain (other : c ≠ mark) (ordinary : c ≠ '\\') : Written mark c [c]
  | escaped {d : Char} (stands : afterBackslash d = c) : Written mark c ['\\', d]

/-- An encoder that writes every character on its own, in one of these ways. -/
def Encodes (mark : Char) (encode : List Char → List Char) : Prop :=
  ∃ f : Char → List Char, (∀ c, Written mark c (f c)) ∧ encode = List.flatMap f

namespace Encodes

variable {mark : Char} {encode : List Char → List Char}

theorem read (h : Encodes mark encode) (real : isQuote mark = true) (s r : List Char) :
    readBackslashed mark (encode s ++ mark :: r) = some (s, r) := by
  obtain ⟨f, written, rfl⟩ := h
  induction s with
  | nil => rcases Cover.isQuote_iff.1 real with rfl | rfl | rfl <;> rfl
  | cons c s ih =>
    rw [List.flatMap_cons, List.append_assoc]
    generalize hw : f c = w
    cases hw ▸ written c with
    | plain other ordinary => simp [readBackslashed, ordinary, other, ih]
    | escaped stands => simp [readBackslashed, ih, stands]

/-- What is written so never closes a quotation in which backslashes escape. -/
theorem spans (h : Encodes mark encode) (real : isQuote mark = true) (escapes : mark ≠ '\x60')
    (s rest : List Char) : (Cover.quote mark real).Spans (encode s) rest := by
  obtain ⟨f, written, rfl⟩ := h
  induction s with
  | nil => exact .nil
  | cons c s ih =>
    rw [List.flatMap_cons]
    generalize hw : f c = w
    cases hw ▸ written c with
    | plain other ordinary =>
      refine .plain (fun closes => ?_) (fun h => (ordinary h).elim) ih
      exact other (List.cons_prefix_cons.1 closes).1.symm
    | escaped => exact .escaped (by simpa [Cover.escapes] using escapes) ih

/-- A literal in front of a statement adds no placeholder and takes none away. -/
theorem placeholders (h : Encodes mark encode) (real : isQuote mark = true)
    (escapes : mark ≠ '\x60') (s r : List Char) :
    placeholders .code (mark :: (encode s ++ mark :: r)) = QueryPool.placeholders .code r := by
  let k : Cover := .quote mark real
  calc QueryPool.placeholders .code (mark :: (encode s ++ mark :: r))
      = QueryPool.placeholders k.place (encode s ++ mark :: r) := k.placeholders_opening _
    _ = QueryPool.placeholders k.place (mark :: r) := (h.spans real escapes s _).placeholders
    _ = QueryPool.placeholders .code r := k.placeholders_closing r

end Encodes

theorem escapeOffline_encodes {mark : Char} (h : mark = '\'' ∨ mark = '"') :
    Encodes mark escapeOffline := by
  refine ⟨_, fun c => ?_, rfl⟩
  split
  iterate 7 exact .escaped rfl
  · refine .plain ?_ (by assumption)
    rcases h with rfl | rfl <;> assumption

theorem escapeOnline_encodes : Encodes '\'' escapeOnline := by
  refine ⟨_, fun c => ?_, rfl⟩
  split
  · exact .escaped rfl
  · exact .escaped rfl
  · exact .plain (by assumption) (by assumption)

/-- One character replaced throughout. -/
def replaced (a : Char) (new : List Char) : List Char → List Char :=
  List.flatMap fun c => if c = a then new else [c]

/-- The rules of an open session as two passes, backslashes first: the second puts marks in front of
quotes alone, so it spoils no pair of the first. -/
theorem escapeOnline_eq_passes (s : List Char) :
    escapeOnline s = replaced '\'' ['\\', '\''] (replaced '\\' ['\\', '\\'] s) := by
  simp only [escapeOnline, replaced, List.flatMap_assoc]
  congr 1
  funext c
  split
  · rfl
  · rfl
  · simp_all

theorem readDoubled_escapeDoubling {r : List Char} (h : r.head? ≠ some '\'') (s : List Char) :
    readDoubled (escapeDoubling s ++ '\'' :: r) = some (s, r) := by
  induction s with
  | nil =>
    cases r with
    | nil => rfl
    | cons d r =>
      have other : d ≠ '\'' := by simpa using h
      simp [escapeDoubling, readDoubled, other]
  | cons c s ih =>
    unfold escapeDoubling at ih ⊢
    rw [List.flatMap_cons, List.append_assoc]
    by_cases hc : c = '\''
    · subst hc
      simp [readDoubled, ih]
    · simp [readDoubled, hc, ih]

end Text

theorem Connection.escape_encodes (c : Connection) :
    ∃ encode, Text.Encodes '\'' encode ∧ ∀ s, c.escape s = String.ofList (encode s.toList) := by
  cases hs : c.session with
  | none =>
    exact ⟨_, Text.escapeOffline_encodes (.inl rfl), fun s => by simp only [Connection.escape, hs]⟩
  | some ses =>
    exact ⟨_, Text.escapeOnline_encodes, fun s => by simp only [Connection.escape, hs, Session.escape]⟩

/-- Escaped text is read back whole and ends at the quote put after it, whatever follows: by the
rules of backslashes what a connection escapes, open or closed, and a closed one also between double
quotes; by those of doubled quotes what SQLite escapes, unless a quote follows. A literal of the
first kind leaves the placeholders of what follows as they are. -/
theorem escaped_read_back :
    (∀ (c : Connection) (s r : String),
      Text.readBackslashed '\'' (c.escape s ++ "'" ++ r).toList = some (s.toList, r.toList) ∧
      placeholders .code ("'" ++ c.escape s ++ "'" ++ r).toList = placeholders .code r.toList ∧
      (c.isOpen = false →
        Text.readBackslashed '"' (c.escape s ++ "\"" ++ r).toList = some (s.toList, r.toList) ∧
        placeholders .code ("\"" ++ c.escape s ++ "\"" ++ r).toList = placeholders .code r.toList) ∧
      (c.isOpen = true → (c.escape s).toList =
        Text.replaced '\'' ['\\', '\''] (Text.replaced '\\' ['\\', '\\'] s.toList))) ∧
    ∀ s r : String, r.toList.head? ≠ some '\'' →
      Text.readDoubled (Sqlite.escape s ++ "'" ++ r).toList = some (s.toList, r.toList) := by
  have single : "'".toList = ['\''] := rfl
  have double : "\"".toList = ['"'] := rfl
  refine ⟨fun c s r => ⟨?_, ?_, fun closed => ?_, fun opened => ?_⟩, fun s r h => ?_⟩
  · obtain ⟨encode, encodes, same⟩ := c.escape_encodes
    simp only [same, String.toList_append, String.toList_ofList, single, List.append_assoc]
    exact encodes.read rfl s.toList r.toList
  · obtain ⟨encode, encodes, same⟩ := c.escape_encodes
    simp only [same, String.toList_append, String.toList_ofList, single, List.append_assoc]
    exact encodes.placeholders rfl (by decide) s.toList r.toList
  · have same : c.escape s = String.ofList (Text.escapeOffline s.toList) := by
      have hs : c.session = none := by simpa [Connection.isOpen] using closed
      simp only [Connection.escape, hs]
    have encodes : Text.Encodes '"' Text.escapeOffline := Text.escapeOffline_encodes (.inr rfl)
    simp only [same, String.toList_append, String.toList_ofList, double, List.append_assoc]
    exact ⟨encodes.read rfl s.toList r.toList, encodes.placeholders rfl (by decide) s.toList r.toList⟩
  · obtain ⟨ses, hs⟩ := Option.isSome_iff_exists.1 opened
    simp only [Connection.escape, hs, Session.escape, String.toList_ofList]
    exact Text.escapeOnline_eq_passes s.toList
  · simp only [Sqlite.escape, String.toList_append, String.toList_ofList, single, List.append_assoc]
    exact Text.readDoubled_escapeDoubling h s.toList

/-- A text that tries to end its literal early, and ends in a backslash itself. -/
def hostile : String := "\\' OR ? = \"?\" -- \\"

theorem escaped_read_back_hostile :
    let closed : Connection := Link.losing.conn
    let opened : Connection := { closed with session := some { id := 1 } }
    (closed.isOpen = false ∧
      Text.readBackslashed '"' (closed.escape hostile ++ "\"" ++ ", ?").toList =
        some (hostile.toList, ", ?".toList)) ∧
    (opened.isOpen = true ∧
      Text.readBackslashed '\'' (opened.escape hostile ++ "'" ++ ", ?").toList =
        some (hostile.toList, ", ?".toList) ∧
      placeholders .code ("'" ++ opened.escape hostile ++ "'" ++ ", ?").toList = 1 ∧
      (opened.escape hostile).toList = Text.replaced '\'' ['\\', '\'']
        (Text.replaced '\\' ['\\', '\\'] hostile.toList)) ∧
    ", ?".toList.head? ≠ some '\'' ∧
      Text.readDoubled (Sqlite.escape hostile ++ "'" ++ ", ?").toList =
        some (hostile.toList, ", ?".toList) := by
  intro closed opened
  obtain ⟨connected, sqlite⟩ := escaped_read_back
  obtain ⟨_, _, offline, _⟩ := connected closed hostile ", ?"
  obtain ⟨read, asks, _, passes⟩ := connected opened hostile ", ?"
  exact ⟨⟨rfl, (offline rfl).1⟩, ⟨rfl, read, asks, passes rfl⟩, by decide,
    sqlite hostile ", ?" (by decide)⟩

end QueryPool
