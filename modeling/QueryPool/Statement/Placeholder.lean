namespace QueryPool

/-- What the scan of a statement is inside of. -/
inductive Place where
  | code
  | quoted (mark : Char)
  | lineComment
  | blockComment
  deriving DecidableEq

def isQuote (c : Char) : Bool := c = '\'' || c = '"' || c = '\x60'

/-- Inside single and double quotes a backslash keeps the character after it from closing them. What
is not closed goes on to the end. -/
def placeholders : Place → List Char → Nat
  | _, [] => 0
  | .code, '-' :: '-' :: s => placeholders .lineComment s
  | .code, '/' :: '*' :: s => placeholders .blockComment s
  | .code, c :: s =>
    if c = '?' then placeholders .code s + 1
    else placeholders (if isQuote c then .quoted c else .code) s
  | .quoted q, '\\' :: c :: s =>
    if q = '\x60' then placeholders (.quoted q) (c :: s) else placeholders (.quoted q) s
  | .quoted q, c :: s => placeholders (if c = q then .code else .quoted q) s
  | .lineComment, c :: s => placeholders (if c = '\n' then .code else .lineComment) s
  | .blockComment, '*' :: '/' :: s => placeholders .code s
  | .blockComment, _ :: s => placeholders .blockComment s

end QueryPool
