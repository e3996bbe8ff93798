import QueryPool.Value.Basic

namespace QueryPool

structure Table where
  columns : List String
  rows : List Row

def Table.push (t : Table) (r : Row) : Table := { t with rows := t.rows ++ [r] }

/-- Stands on `current`, which is empty once the rows are used up. -/
structure Cursor where
  columns : List String
  rowCount : Nat
  current : Row
  rest : List Row

namespace Cursor

/-- Stands on the first row; without rows there is no cursor. -/
def ofTable? (t : Table) : Option Cursor :=
  match t.rows with
  | [] => none
  | r :: rest => some ⟨t.columns, t.rows.length, r, rest⟩

/-- Moves to the next row and tells whether there was one. -/
def next (c : Cursor) : Bool × Cursor :=
  match c.rest with
  | [] => (false, { c with current := [] })
  | r :: rest => (true, { c with current := r, rest })

/-- The last column of a name. -/
def index? (c : Cursor) (name : String) : Option Nat :=
  (c.columns.zipIdx.reverse.find? (·.1 = name)).map (·.2)

def get? (c : Cursor) (i : Nat) : Option Value := c.current[i]?

def named? (c : Cursor) (name : String) : Option Value := (c.index? name).bind c.get?

/-- The rows from the current one on. -/
def toList (c : Cursor) : List Row := c.current :: c.rest

end Cursor
end QueryPool
