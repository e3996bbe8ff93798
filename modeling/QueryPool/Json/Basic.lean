namespace QueryPool

/-- An integer that fits a signed or an unsigned 64-bit word, or a finite binary64 number. -/
inductive Json.Number where
  | integer (n : Int)
  | real (x : Float)

inductive Json where
  | null
  | bool (b : Bool)
  | number (n : Json.Number)
  | text (s : String)
  | array (items : List Json)
  | object (members : List (String × Json))

namespace Json

/-- What holds of a tree if it holds of its parts holds of every tree. -/
theorem induct {P : Json → Prop} (null : P .null) (bool : ∀ b, P (.bool b))
    (number : ∀ n, P (.number n)) (text : ∀ s, P (.text s))
    (array : ∀ items, (∀ x ∈ items, P x) → P (.array items))
    (object : ∀ members, (∀ m ∈ members, P m.2) → P (.object members)) (j : Json) : P j := by
  match j with
  | .null => exact null
  | .bool b => exact bool b
  | .number n => exact number n
  | .text s => exact text s
  | .array items => exact array items fun x _ => induct null bool number text array object x
  | .object members => exact object members fun m _ => induct null bool number text array object m.2
termination_by sizeOf j
decreasing_by
  · rename_i hx
    have := List.sizeOf_lt_of_mem hx
    simp only [Json.array.sizeOf_spec]
    omega
  · rename_i hm
    have := List.sizeOf_lt_of_mem hm
    cases m
    simp only [Json.object.sizeOf_spec, Prod.mk.sizeOf_spec] at this ⊢
    omega

def Number.inRange : Number → Bool
  | .integer n => -0x8000000000000000 ≤ n && n < 0x10000000000000000
  | .real x => x.isFinite

/-- An integer never equals a real, and reals compare as numbers. -/
def Number.same : Number → Number → Bool
  | .integer m, .integer n => m = n
  | .real x, .real y => x == y
  | _, _ => false

mutual

def same : Json → Json → Bool
  | .null, .null => true
  | .bool a, .bool b => a = b
  | .number m, .number n => m.same n
  | .text s, .text t => s = t
  | .array xs, .array ys => sameItems xs ys
  | .object xs, .object ys => sameMembers xs ys
  | _, _ => false

def sameItems : List Json → List Json → Bool
  | [], [] => true
  | x :: xs, y :: ys => x.same y && sameItems xs ys
  | _, _ => false

def sameMembers : List (String × Json) → List (String × Json) → Bool
  | [], [] => true
  | (k, x) :: xs, (l, y) :: ys => k = l && x.same y && sameMembers xs ys
  | _, _ => false

end

def ascending : List String → Bool
  | [] => true
  | k :: rest => rest.all (k < ·) && ascending rest

mutual

def canonical : Json → Bool
  | .number n => n.inRange
  | .array items => canonicalItems items
  | .object members => ascending (members.map (·.1)) && canonicalMembers members
  | _ => true

def canonicalItems : List Json → Bool
  | [] => true
  | x :: xs => x.canonical && canonicalItems xs

def canonicalMembers : List (String × Json) → Bool
  | [] => true
  | (_, x) :: xs => x.canonical && canonicalMembers xs

end

/-- Adds a member that stood before all of `members`: under a name that occurs later it is lost. -/
def putEarlier (k : String) (x : Json) : List (String × Json) → List (String × Json)
  | [] => [(k, x)]
  | (l, y) :: rest =>
    if k < l then (k, x) :: (l, y) :: rest
    else if l < k then (l, y) :: putEarlier k x rest
    else (l, y) :: rest

mutual

/-- Puts the members of every object in order; of members with one name the last stays. -/
def tidy : Json → Json
  | .array items => .array (tidyItems items)
  | .object members => .object (tidyMembers members)
  | j => j

def tidyItems : List Json → List Json
  | [] => []
  | x :: xs => x.tidy :: tidyItems xs

def tidyMembers : List (String × Json) → List (String × Json)
  | [] => []
  | (k, x) :: xs => putEarlier k x.tidy (tidyMembers xs)

end

structure Document where
  tree : Json
  canonical : tree.canonical = true

/-- A tree has no document only if one of its numbers is out of range. -/
def Document.ofTree? (j : Json) : Option Document :=
  if h : j.tidy.canonical = true then some ⟨j.tidy, h⟩ else none

def Document.same (d e : Document) : Bool := d.tree.same e.tree

end Json
end QueryPool
