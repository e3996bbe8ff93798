import QueryPool.Error
import QueryPool.Text.Blank
import QueryPool.Text.Digits
import QueryPool.Text.Quoted

namespace QueryPool

structure Login where
  host : String
  /-- a port, or the path of a socket -/
  place : String
  user : String
  password : String
  database : String
  ssl : Bool
  deriving DecidableEq, Repr

namespace Login

def maxPort : Nat := 65535

def port? (l : Login) : Option Nat := Text.bounded? maxPort l.place.toList

def usesSocket (l : Login) : Bool := l.host = "."

/-- An empty flag counts as none. -/
def flag? (s : List Char) : Option Bool :=
  if s = [] then some false
  else if s.map Char.toLower = ['s', 's', 'l'] then some true
  else none

/-- The password is taken as it stands, the other fields without the blanks around them. -/
def ofFields (host place user password database flag : List Char) : Except ConfigProblem Login :=
  let host := Text.trim host
  let place := Text.trim place
  let flag := Text.trim flag
  match flag? flag with
  | none => .error (.unknownFlag (String.ofList flag))
  | some ssl =>
    if host ≠ ['.'] ∧ Text.bounded? maxPort place = none then
      .error (.invalidPort (String.ofList place) (String.ofList host))
    else
      .ok { host := String.ofList host
            place := String.ofList place
            user := String.ofList (Text.trim user)
            password := String.ofList password
            database := String.ofList (Text.trim database)
            ssl }

def parse (s : String) : Except ConfigProblem Login :=
  match s.toList.splitOn ';' with
  | [h, p, u, w, d] => ofFields h p u w d []
  | [h, p, u, w, d, f] => ofFields h p u w d f
  | fields => .error (.fieldCount fields.length)

/-- The fields joined again, in a form that reads back as the same login. -/
def connectionString (l : Login) : String :=
  let fields := [l.host, l.place, l.user, l.password, l.database]
  ";".intercalate (if l.ssl then fields ++ ["ssl"] else fields)

def text (l : Login) : String := s!"{l.user}@{l.host}:{l.place}/{l.database}"

/-- Shows every field but the password. -/
def diagnostic (l : Login) : String :=
  "ConnectionInfo \x7b host: " ++ Text.quoted l.host ++ ", port_or_socket: " ++
    Text.quoted l.place ++ ", user: " ++ Text.quoted l.user ++
    ", password: \"<redacted>\", database: " ++ Text.quoted l.database ++ ", ssl: " ++
    toString l.ssl ++ " \x7d"

end Login
end QueryPool
