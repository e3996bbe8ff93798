namespace QueryPool.Text

def occursIn (pattern : List Char) : List Char → Bool
  | [] => pattern.isEmpty
  | c :: s => pattern.isPrefixOf (c :: s) || occursIn pattern s

/-- Whether `pattern` occurs in `text`; the empty pattern occurs everywhere. -/
def occurs (pattern text : String) : Bool := occursIn pattern.toList text.toList

theorem occursIn_iff {p s : List Char} : occursIn p s ↔ p <:+: s := by
  induction s with
  | nil => simp [occursIn]
  | cons c s ih => simp [occursIn, ih, List.infix_cons_iff]

theorem occurs_iff {p t : String} : occurs p t ↔ p.toList <:+: t.toList := occursIn_iff

end QueryPool.Text
