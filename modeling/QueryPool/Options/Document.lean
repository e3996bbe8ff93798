import QueryPool.Json.Parser
import QueryPool.Options.Basic

namespace QueryPool.Options

open Json (Reader Fault)

def readSetting (s : Setting) : Reader Nat :=
  match s with
  | .warnAboutSyncQueries => fun t => (Json.boolean t).map fun (b, t) => (b.toNat, t)
  | s => Json.natural s.limit

/-- The options so far with the settings already given. -/
abbrev Gathered := Options × List Setting

/-- A setting may be given once. -/
def member (g : Gathered) : Reader Gathered := fun s => do
  let (k, s) ← Json.name Json.readString s
  match Setting.ofKey? k with
  | some setting =>
    if setting ∈ g.2 then .error .mismatch
    else
      let s ← Json.colon s
      let (n, s) ← readSetting setting s
      return ((g.1.set setting n, setting :: g.2), s)
  | none =>
    let s ← Json.colon s
    let ((), s) ← Json.skipValue (s.length + 1) s
    return (g, s)

/-- The item of an array that follows the settings already given. -/
def item (g : Gathered) : Reader Gathered := fun s =>
  match Setting.all[g.2.length]? with
  | some setting =>
    (readSetting setting s).map fun (n, s) => ((g.1.set setting n, setting :: g.2), s)
  | none => .error .malformed

def readOptions : Reader Options := fun s =>
  match Json.skipSpace s with
  | [] => .error .truncated
  | '[' :: s =>
    (Json.parts ']' item (s.length + 1) true ({}, []) s).map fun (g, s) => (g.1, s)
  | '\x7b' :: s =>
    (Json.parts '\x7d' member (s.length + 1) true ({}, []) s).map fun (g, s) => (g.1, s)
  | s => Json.refuse s

def ofJson (s : String) : Except Fault Options := Json.whole readOptions s.toList

end QueryPool.Options
