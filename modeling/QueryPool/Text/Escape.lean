namespace QueryPool.Text

/-- The rules of a closed connection: backslashes before quotes and backslashes, letters for the
four controls that a literal must not hold. -/
def escapeOffline : List Char → List Char :=
  List.flatMap fun c =>
    match c with
    | '\x00' => ['\\', '0']
    | '\n' => ['\\', 'n']
    | '\r' => ['\\', 'r']
    | '\x1a' => ['\\', 'Z']
    | '\'' => ['\\', '\'']
    | '"' => ['\\', '"']
    | '\\' => ['\\', '\\']
    | c => [c]

/-- The rules of an open session: only the backslash and the single quote are marked. -/
def escapeOnline : List Char → List Char :=
  List.flatMap fun c =>
    match c with
    | '\\' => ['\\', '\\']
    | '\'' => ['\\', '\'']
    | c => [c]

/-- The rules of a SQLite literal: a single quote is written twice. -/
def escapeDoubling : List Char → List Char :=
  List.flatMap fun c => if c = '\'' then ['\'', '\''] else [c]

end QueryPool.Text
