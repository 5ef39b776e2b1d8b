import TableCatalog.Text.Basic

/-!
# JSON values and their written form

The values that the metadata service and its clients exchange are built from `null`, truth values,
integers, strings, arrays and objects; none of them holds a fraction. The members of an object keep
the order in which they are given.

`Json.text` writes a value without blanks. Inside quotes only the quote, the backslash and the
control characters below the blank are escaped; every other character stands for itself.
-/

namespace TableCatalog

/-- A JSON value without fractions. -/
inductive Json where
  | null
  | bool (b : Bool)
  | int (n : Int)
  | str (s : String)
  | arr (items : List Json)
  | obj (members : List (String × Json))

namespace Json

/-- The written form of a character inside quotes. -/
def escapeChar (c : Char) : List Char :=
  if c = '"' then ['\\', '"']
  else if c = '\\' then ['\\', '\\']
  else if c.toNat = 8 then ['\\', 'b']
  else if c.toNat = 9 then ['\\', 't']
  else if c.toNat = 10 then ['\\', 'n']
  else if c.toNat = 12 then ['\\', 'f']
  else if c.toNat = 13 then ['\\', 'r']
  else if c.toNat < 32 then
    ['\\', 'u', '0', '0', Text.hexDigit (c.toNat / 16), Text.hexDigit (c.toNat % 16)]
  else [c]

def quote (cs : List Char) : List Char := '"' :: cs.flatMap escapeChar ++ ['"']

def intChars : Int → List Char
  | .ofNat n => Nat.toDigits 10 n
  | .negSucc n => '-' :: Nat.toDigits 10 (n + 1)

mutual

def chars : Json → List Char
  | .null => ['n', 'u', 'l', 'l']
  | .bool true => ['t', 'r', 'u', 'e']
  | .bool false => ['f', 'a', 'l', 's', 'e']
  | .int n => intChars n
  | .str s => quote s.toList
  | .arr items => '[' :: itemsChars items
  | .obj members => '\x7b' :: membersChars members

def itemsChars : List Json → List Char
  | [] => [']']
  | v :: vs => chars v ++ moreItemsChars vs

/-- The items of an array that follow another one. -/
def moreItemsChars : List Json → List Char
  | [] => [']']
  | v :: vs => ',' :: chars v ++ moreItemsChars vs

def membersChars : List (String × Json) → List Char
  | [] => ['\x7d']
  | (k, v) :: ms => quote k.toList ++ ':' :: chars v ++ moreMembersChars ms

/-- The members of an object that follow another one. -/
def moreMembersChars : List (String × Json) → List Char
  | [] => ['\x7d']
  | (k, v) :: ms => ',' :: quote k.toList ++ ':' :: chars v ++ moreMembersChars ms

end

def text (v : Json) : String := String.ofList v.chars

end Json

end TableCatalog
