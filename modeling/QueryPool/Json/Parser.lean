import QueryPool.Json.Lexer

namespace QueryPool.Json

/-- The parts of a container up to its closing mark, with commas between them. `part` reads one part
into what has been gathered; `first` tells that nothing has been gathered yet. -/
def parts {σ : Type} (close : Char) (part : σ → Reader σ) : Nat → Bool → σ → Reader σ
  | 0, _, _, _ => .error .truncated
  | fuel + 1, first, acc, s =>
    let next (s : List Char) : Except Fault (σ × List Char) :=
      match part acc s with
      | .ok (acc, s) => parts close part fuel false acc s
      | .error e => .error e
    match skipSpace s with
    | [] => .error .truncated
    | c :: s =>
      if c = close then .ok (acc, s)
      else if first then next (c :: s)
      else if c = ',' then next (skipSpace s)
      else .error .malformed

/-- The colon between a name and its value. -/
def colon (s : List Char) : Except Fault (List Char) :=
  match skipSpace s with
  | [] => .error .truncated
  | c :: s => if c = ':' then .ok s else .error .malformed

/-- The name of a member, which is always a string. -/
def name {α : Type} (read : Reader α) : Reader α
  | [] => .error .truncated
  | c :: s => if c = '"' then read s else .error .malformed

def item (value : Reader Json) (items : List Json) : Reader (List Json) := fun s =>
  (value s).map fun (x, s) => (x :: items, s)

def member (value : Reader Json) (members : List (String × Json)) :
    Reader (List (String × Json)) := fun s => do
  let (k, s) ← name readString s
  let s ← colon s
  let (x, s) ← value s
  return ((k, x) :: members, s)

/-- One value; `depth` containers may still be entered. -/
def readValue (depth : Nat) : Reader Json := fun s =>
  match skipSpace s with
  | [] => .error .truncated
  | 'n' :: s => (word ['u', 'l', 'l'] s).map fun (_, s) => (.null, s)
  | 't' :: s => (word ['r', 'u', 'e'] s).map fun (_, s) => (.bool true, s)
  | 'f' :: s => (word ['a', 'l', 's', 'e'] s).map fun (_, s) => (.bool false, s)
  | '"' :: s => (readString s).map fun (t, s) => (.text t, s)
  | '[' :: s =>
    match depth with
    | 0 => .error .malformed
    | depth + 1 =>
      (parts ']' (item (readValue depth)) (s.length + 1) true [] s).map fun (xs, s) =>
        (.array xs.reverse, s)
  | '\x7b' :: s =>
    match depth with
    | 0 => .error .malformed
    | depth + 1 =>
      (parts '\x7d' (member (readValue depth)) (s.length + 1) true [] s).map fun (xs, s) =>
        (.object xs.reverse, s)
  | '-' :: s => (readNumber true s).map fun (n, s) => (.number n, s)
  | c :: s =>
    if c.isDigit then (readNumber false (c :: s)).map fun (n, s) => (.number n, s)
    else .error .malformed

/-- How many containers a value may lie in. -/
def maxDepth : Nat := 127

/-- A whole text holds one thing and blanks. -/
def whole {α : Type} (read : Reader α) (s : List Char) : Except Fault α :=
  match read s with
  | .ok (a, s) => if skipSpace s = [] then .ok a else .error .malformed
  | .error e => .error e

def Document.ofText? (s : String) : Option Document :=
  (whole (readValue maxDepth) s.toList).toOption.bind Document.ofTree?

/-- A value that nobody looks at. Its containers are counted by nothing but `fuel`, and a number
that ends the text is as wrong as any other. -/
def skipValue : Nat → Reader Unit
  | 0, _ => .error .truncated
  | fuel + 1, s =>
    match skipSpace s with
    | [] => .error .truncated
    | 'n' :: s => word ['u', 'l', 'l'] s
    | 't' :: s => word ['r', 'u', 'e'] s
    | 'f' :: s => word ['a', 'l', 's', 'e'] s
    | '"' :: s => skipString s
    | '[' :: s => parts ']' (fun _ => skipValue fuel) (s.length + 1) true () s
    | '\x7b' :: s =>
      let skipMember (_ : Unit) (s : List Char) : Except Fault (Unit × List Char) := do
        let ((), s) ← name skipString s
        skipValue fuel (← colon s)
      parts '\x7d' skipMember (s.length + 1) true () s
    | '-' :: s => (numeral .malformed s).map fun (_, s) => ((), s)
    | c :: s =>
      if c.isDigit then (numeral .malformed (c :: s)).map fun (_, s) => ((), s)
      else .error .malformed

/-- The fault of a value of the wrong kind: it is looked at far enough to tell what it is. -/
def refuse {α : Type} (s : List Char) : Except Fault α :=
  let whenRead {β : Type} : Except Fault β → Except Fault α
    | .ok _ => .error .mismatch
    | .error e => .error e
  match s with
  | [] => .error .truncated
  | 'n' :: s => whenRead (word ['u', 'l', 'l'] s)
  | 't' :: s => whenRead (word ['r', 'u', 'e'] s)
  | 'f' :: s => whenRead (word ['a', 'l', 's', 'e'] s)
  | '"' :: s => whenRead (readString s)
  | '[' :: _ | '\x7b' :: _ => .error .mismatch
  | '-' :: s => whenRead (readNumber true s)
  | c :: s => if c.isDigit then whenRead (readNumber false (c :: s)) else .error .malformed

/-- A number that is a natural number up to `limit`. -/
def natural (limit : Nat) : Reader Nat := fun s =>
  match skipSpace s with
  | [] => .error .truncated
  | c :: s =>
    if c.isDigit then
      match readNumber false (c :: s) with
      | .ok (.integer n, s) => if n ≤ limit then .ok (n.toNat, s) else .error .mismatch
      | .ok (.real _, _) => .error .mismatch
      | .error e => .error e
    else refuse (c :: s)

def boolean : Reader Bool := fun s =>
  match skipSpace s with
  | [] => .error .truncated
  | 't' :: s => (word ['r', 'u', 'e'] s).map fun (_, s) => (true, s)
  | 'f' :: s => (word ['a', 'l', 's', 'e'] s).map fun (_, s) => (false, s)
  | s => refuse s

end QueryPool.Json
