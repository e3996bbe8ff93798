import QueryPool.Decimal.Style
import QueryPool.Json.Basic
import QueryPool.Text.Quoted

namespace QueryPool.Json

def integerText (n : Int) : List Char :=
  if n < 0 then '-' :: Text.digits n.natAbs else Text.digits n.natAbs

def Number.write : Number → List Char
  | .integer n => integerText n
  | .real x => (Decimal.json.write x).toList

/-- Only what JSON forbids inside a string is escaped. -/
def escapeChar (c : Char) : List Char :=
  match c with
  | '"' => ['\\', '"']
  | '\\' => ['\\', '\\']
  | '\x08' => ['\\', 'b']
  | '\x0c' => ['\\', 'f']
  | '\n' => ['\\', 'n']
  | '\r' => ['\\', 'r']
  | '\t' => ['\\', 't']
  | c =>
    if c.toNat < 0x20 then ['\\', 'u'] ++ (Text.hexDigits c.toNat).leftpad 4 '0' else [c]

def writeText (s : String) : List Char := '"' :: s.toList.flatMap escapeChar ++ ['"']

mutual

def write : Json → List Char
  | .null => ['n', 'u', 'l', 'l']
  | .bool true => ['t', 'r', 'u', 'e']
  | .bool false => ['f', 'a', 'l', 's', 'e']
  | .number n => n.write
  | .text s => writeText s
  | .array [] => ['[', ']']
  | .array (x :: xs) => '[' :: x.write ++ writeItems xs
  | .object [] => ['\x7b', '\x7d']
  | .object ((k, x) :: xs) => '\x7b' :: writeText k ++ ':' :: x.write ++ writeMembers xs

/-- What follows the first item of an array. -/
def writeItems : List Json → List Char
  | [] => [']']
  | x :: xs => ',' :: x.write ++ writeItems xs

/-- What follows the first member of an object. -/
def writeMembers : List (String × Json) → List Char
  | [] => ['\x7d']
  | (k, x) :: xs => ',' :: writeText k ++ ':' :: x.write ++ writeMembers xs

end

def Document.text (d : Document) : String := String.ofList d.tree.write

mutual

def diagnostic : Json → String
  | .null => "Null"
  | .bool b => "Bool(" ++ toString b ++ ")"
  | .number n => "Number(" ++ String.ofList n.write ++ ")"
  | .text s => "String(" ++ Text.quoted s ++ ")"
  | .array items => "Array [" ++ ", ".intercalate (diagnosticItems items) ++ "]"
  | .object members =>
    "Object \x7b" ++ ", ".intercalate (diagnosticMembers members) ++ "\x7d"

def diagnosticItems : List Json → List String
  | [] => []
  | x :: xs => x.diagnostic :: diagnosticItems xs

def diagnosticMembers : List (String × Json) → List String
  | [] => []
  | (k, x) :: xs => (Text.quoted k ++ ": " ++ x.diagnostic) :: diagnosticMembers xs

end

end QueryPool.Json
