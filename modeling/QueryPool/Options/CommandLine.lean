import QueryPool.Options.Basic
import QueryPool.Text.Digits

namespace QueryPool.Options

inductive CommandLineError where
  | missingValue
  | badValue
  | unexpectedValue
  | unknownWord
  | repeated
  | helpAsked
  deriving DecidableEq, Repr

namespace Setting

/-- The option of a setting has hyphens where its key has underscores. -/
def option (s : Setting) : List Char := s.key.toList.map fun c => if c = '_' then '-' else c

def ofOption? (name : List Char) : Option Setting := all.find? (·.option = name)

def isFlag (s : Setting) : Bool := s = warnAboutSyncQueries

/-- The narrow counts are read as signed numbers, so that a zero may carry a minus sign. -/
def value? (s : Setting) (v : List Char) : Option Nat :=
  match s, v with
  | .asyncThreads, '-' :: v | .syncThreads, '-' :: v | .reconnectAttempts, '-' :: v =>
    (Text.natural? v).filter (· = 0)
  | s, v => Text.bounded? s.limit v

end Setting

/-- What has been read: the options, the settings already given, and an option whose value is
not yet complete. -/
structure CommandLine where
  options : Options := {}
  given : List Setting := []
  waiting : Option (Setting × Option (List Char)) := none

namespace CommandLine

def store (c : CommandLine) (s : Setting) (v : List Char) : Except CommandLineError CommandLine :=
  if s ∈ c.given then .error .repeated
  else match s.value? v with
    | some n => .ok { c with options := c.options.set s n, given := s :: c.given }
    | none => .error .badValue

def raise (c : CommandLine) (s : Setting) : Except CommandLineError CommandLine :=
  if s ∈ c.given then .error .repeated
  else .ok { c with options := c.options.set s 1, given := s :: c.given }

/-- Takes the waiting option in. -/
def complete (c : CommandLine) : Except CommandLineError CommandLine :=
  let d := { c with waiting := none }
  match c.waiting with
  | none => .ok d
  | some (_, none) => .error .missingValue
  | some (s, some v) => d.store s v

def help (c : CommandLine) : Except CommandLineError CommandLine := do
  let _ ← c.complete
  .error .helpAsked

/-- A word that begins with two hyphens. -/
def long (c : CommandLine) (name : List Char) (value : Option (List Char)) :
    Except CommandLineError CommandLine :=
  match Setting.ofOption? name, value with
  | some s, none => do
    let c ← c.complete
    if s.isFlag then c.raise s else return { c with waiting := some (s, none) }
  | some s, some v => if s.isFlag then .error .unexpectedValue else do (← c.complete).store s v
  | none, none => if name = "help".toList then c.help else .error .unknownWord
  | none, some _ => .error (if name = "help".toList then .unexpectedValue else .unknownWord)

/-- A word that is no option can only be the value that an option waits for. -/
def plain (c : CommandLine) (w : List Char) : Except CommandLineError CommandLine :=
  match c.waiting with
  | some (s, none) => .ok { c with waiting := some (s, some w) }
  | _ => .error .unknownWord

def splitValue (w : List Char) : List Char × Option (List Char) :=
  match w.span (· ≠ '=') with
  | (name, []) => (name, none)
  | (name, _ :: value) => (name, some value)

def word (c : CommandLine) (w : List Char) : Except CommandLineError CommandLine :=
  match w with
  | '-' :: '-' :: w => c.long (splitValue w).1 (splitValue w).2
  | '-' :: 'h' :: _ => c.help
  | '-' :: _ :: _ => .error .unknownWord
  | w => c.plain w

/-- After two hyphens alone only words without a place could follow. -/
def words (c : CommandLine) : List (List Char) → Except CommandLineError CommandLine
  | [] => c.complete
  | ['-', '-'] :: rest => if rest = [] then c.complete else .error .unknownWord
  | w :: rest => do (← c.word w).words rest

end CommandLine

def ofArguments (args : List String) : Except CommandLineError Options :=
  (CommandLine.words {} (args.map String.toList)).map (·.options)

end QueryPool.Options
