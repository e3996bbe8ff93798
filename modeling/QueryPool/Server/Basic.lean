import QueryPool.Keyed
import QueryPool.Login
import QueryPool.Text.Search

namespace QueryPool

/-- Calls whose text holds `pattern` fail with `code`, `left` times or for ever. -/
structure Rule where
  pattern : String
  code : Nat
  left : Option Nat
  deriving DecidableEq, Repr

namespace Rule

def isLive (r : Rule) : Bool := r.left ≠ some 0

def charges (r : Rule) (text : String) : Bool := Text.occurs r.pattern text && r.isLive

def fire (r : Rule) : Rule := { r with left := r.left.map (· - 1) }

/-- The first rule that charges a call pays for it. -/
def charge (text : String) : List Rule → Option (Nat × List Rule)
  | [] => none
  | r :: rs =>
    if r.charges text then some (r.code, r.fire :: rs)
    else (charge text rs).map fun (code, rs) => (code, r :: rs)

end Rule

structure Server where
  connects : Nat := 0
  /-- connects that are still to be refused -/
  refusals : Nat := 0
  sessions : Nat := 0
  rules : List Rule := []
  emptyFor : List String := []
  /-- placeholder counts that are reported whatever the text says -/
  counts : IdMap Nat := {}
  /-- every statement that ran -/
  executed : List String := []
  /-- the statements whose effects are visible -/
  committed : List String := []
  commits : Nat := 0
  rollbacks : Nat := 0
  pings : Nat := 0

namespace Server

def refuseConnects (s : Server) (n : Nat) : Server := { s with refusals := n }

def addRule (s : Server) (r : Rule) : Server := { s with rules := s.rules ++ [r] }

def findNothingFor (s : Server) (pattern : String) : Server :=
  { s with emptyFor := s.emptyFor ++ [pattern] }

def reportCount (s : Server) (id count : Nat) : Server :=
  { s with counts := s.counts.insert (id, count) }

/-- Lets a call pass or fails it by the script. -/
def check (s : Server) (text : String) : Except NativeError Unit × Server :=
  match Rule.charge text s.rules with
  | none => (.ok (), s)
  | some (code, rules) =>
    (.error ⟨code, s!"injected failure for '{text}'"⟩, { s with rules })

def findsNothing (s : Server) (text : String) : Bool := s.emptyFor.any (Text.occurs · text)

/-- How often rules with an end can still fire. -/
def firingsLeft (s : Server) : Nat := s.rules.foldl (fun n r => n + r.left.getD 0) 0

def version : String := "8.0.36-mock"

end Server
end QueryPool
