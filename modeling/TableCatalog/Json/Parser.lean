import TableCatalog.Decimal
import TableCatalog.Text.Basic

/-!
# Reading JSON text

`reading s` is what the text `s` shows from left to right, together with what follows the value;
nothing follows a value that is cut off. Blanks are the space, the tab, the line feed and the
carriage return.
-/

namespace TableCatalog.Json

/-! ## What a text shows from left to right

A text that is read for a value of a certain kind may hold several things wrong, and the first one
counts. `Reading` is what a text shows to a reader who goes from left to right and stops at the
first place where it is no JSON: a tree whose last branch may be cut off. A value of a kind is then
looked up in this tree from left to right, so that a wrong kind of value is found before a fault
that stands behind it, and after one that stands before it.

Two readers of the same text differ. One *takes* a value, the other only *skips* it: an escaped
surrogate without its partner, a number out of range or very deep nesting are faults for the first
one alone. Where the text ends in the middle of a number, the first one finds that it ends too
early, and the second one that the number is none.
-/

/-- What is wrong with a text, whatever is looked for in it. -/
inductive Fault where
  /-- Something stands where JSON does not allow it. -/
  | malformed
  /-- The text ends too early. -/
  | truncated
  deriving DecidableEq, Repr

/-- Why no value could be read. -/
inductive ReadError where
  /-- Something stands where JSON does not allow it. -/
  | malformed
  /-- The text ends too early. -/
  | truncated
  /-- A value of the wrong kind, out of range, missing or given twice. -/
  | mismatched
  deriving DecidableEq, Repr

def Fault.toReadError : Fault → ReadError
  | .malformed => .malformed
  | .truncated => .truncated

/-- A text in quotes: what it is to a reader who takes it, and to one who skips it. -/
structure Quoted where
  taken : Except Fault String
  skipped : Option Fault

/-- How a row of items or members ends. -/
inductive Tail where
  /-- With its closing bracket. -/
  | closed
  /-- With a fault after the last item. -/
  | cut (fault : Fault)
  deriving DecidableEq, Repr

/-- What a text shows from left to right. -/
inductive Reading where
  | null
  | bool (b : Bool)
  /-- A number of at most 64 bits without fraction and exponent. Negative zero is none. -/
  | integer (n : Int)
  /-- Any other number, and whether it is in the range of doubles. -/
  | real (inRange : Bool)
  /-- A number that the end of the text leaves unfinished. -/
  | unfinished
  | quoted (q : Quoted)
  /-- After each comma an item follows, if only a cut one. -/
  | array (items : List Reading) (tail : Tail)
  | object (members : List (Quoted × Reading)) (tail : Tail)
  /-- No value can be read here. -/
  | broken (fault : Fault)

mutual

def Reading.skip : Reading → Option Fault
  | .null | .bool _ | .integer _ | .real _ => none
  | .unfinished => some .malformed
  | .quoted q => q.skipped
  | .array items tail => skipItems items tail
  | .object members tail => skipMembers members tail
  | .broken fault => some fault

def skipItems : List Reading → Tail → Option Fault
  | [], .closed => none
  | [], .cut fault => some fault
  | r :: rs, tail => r.skip.or (skipItems rs tail)

def skipMembers : List (Quoted × Reading) → Tail → Option Fault
  | [], .closed => none
  | [], .cut fault => some fault
  | (q, r) :: ms, tail => q.skipped.or (r.skip.or (skipMembers ms tail))

end

/-- The fault of a text in quotes for a reader who takes it. -/
def Quoted.takenFault (q : Quoted) : Option Fault :=
  match q.taken with
  | .ok _ => none
  | .error fault => some fault

mutual

/-- The fault that a reader meets who takes a value of any kind, with room for `depth` levels of
arrays and objects. -/
def Reading.take (depth : Nat) : Reading → Option Fault
  | .null | .bool _ | .integer _ => none
  | .real inRange => if inRange then none else some .malformed
  | .unfinished => some .truncated
  | .quoted q => q.takenFault
  | .array items tail => if depth = 0 then some .malformed else takeItems (depth - 1) items tail
  | .object members tail =>
    if depth = 0 then some .malformed else takeMembers (depth - 1) members tail
  | .broken fault => some fault

def takeItems (depth : Nat) : List Reading → Tail → Option Fault
  | [], .closed => none
  | [], .cut fault => some fault
  | r :: rs, tail => (r.take depth).or (takeItems depth rs tail)

def takeMembers (depth : Nat) : List (Quoted × Reading) → Tail → Option Fault
  | [], .closed => none
  | [], .cut fault => some fault
  | (q, r) :: ms, tail => q.takenFault.or ((r.take depth).or (takeMembers depth ms tail))

end

/-- Why a value that starts here is not of the kind that is looked for. A number or a text is
read to its end first. -/
def Reading.mismatch : Reading → ReadError
  | .null | .bool _ | .integer _ | .array _ _ | .object _ _ => .mismatched
  | .real inRange => if inRange then .mismatched else .malformed
  | .unfinished => .truncated
  | .quoted q => (q.takenFault.map Fault.toReadError).getD .mismatched
  | .broken fault => fault.toReadError

/-! ## Texts -/

open Text

def isBlank (c : Char) : Bool := c = ' ' || c = '\n' || c = '\t' || c = '\r'

def skipBlanks (cs : List Char) : List Char := cs.dropWhile isBlank

/-- Something read, and the text behind it unless a fault ended the reading. -/
abbrev Step (α : Type) := α × Option (List Char)

/-- A value that is written as a fixed word, after its first character. -/
def word (expected : List Char) (value : Reading) : List Char → Step Reading :=
  go expected
where
  go : List Char → List Char → Step Reading
    | [], cs => (value, some cs)
    | _ :: _, [] => (.broken .truncated, none)
    | e :: es, c :: cs => if e = c then go es cs else (.broken .malformed, none)

/-- The number of bytes of a text, up to four. -/
def fewBytes : List Char → Nat
  | a :: b :: c :: d :: _ => a.utf8Size + b.utf8Size + c.utf8Size + d.utf8Size
  | cs => cs.foldl (fun n c => n + c.utf8Size) 0

/-- Four hexadecimal digits, or the fault that stands in their place: the text ends too early if
less than four bytes are left. -/
def fourHex (cs : List Char) : Except Fault (Nat × List Char) :=
  if fewBytes cs < 4 then .error .truncated
  else match cs with
    | a :: b :: c :: d :: rest =>
      match hexValue? a, hexValue? b, hexValue? c, hexValue? d with
      | some a, some b, some c, some d => .ok (ofDigits 16 [a, b, c, d], rest)
      | _, _, _, _ => .error .malformed
    | _ => .error .malformed

/-- The character that a letter after a backslash stands for. -/
def shortEscape? : Char → Option Char
  | '"' => some '"'
  | '\\' => some '\\'
  | '/' => some '/'
  | 'b' => some (Char.ofNat 8)
  | 'f' => some (Char.ofNat 12)
  | 'n' => some '\n'
  | 'r' => some '\r'
  | 't' => some '\t'
  | _ => none

def isLeading (n : Nat) : Bool := 0xD800 ≤ n && n ≤ 0xDBFF

def isTrailing (n : Nat) : Bool := 0xDC00 ≤ n && n ≤ 0xDFFF

def pairChar (leading trailing : Nat) : Char :=
  Char.ofNat ((leading - 0xD800) * 0x400 + (trailing - 0xDC00) + 0x10000)

/-- The second half of a surrogate pair, for a reader who takes the text. -/
def trailingUnit (cs : List Char) : Except Fault (Nat × List Char) :=
  match cs with
  | [] => .error .truncated
  | '\\' :: [] => .error .truncated
  | '\\' :: 'u' :: rest =>
    match fourHex rest with
    | .error fault => .error fault
    | .ok (n, rest) => if isTrailing n then .ok (n, rest) else .error .malformed
  | _ => .error .malformed

/-- A text up to its closing quote, for a reader who takes it; `acc` holds the characters before,
in reverse. The text ends within `fuel` steps. -/
def takeQuoted : Nat → List Char → List Char → Except Fault (String × List Char)
  | 0, _, _ => .error .truncated
  | _ + 1, _, [] => .error .truncated
  | fuel + 1, acc, c :: cs =>
    if c = '"' then .ok (String.ofList acc.reverse, cs)
    else if c = '\\' then
      match cs with
      | [] => .error .truncated
      | e :: rest =>
        if e = 'u' then
          match fourHex rest with
          | .error fault => .error fault
          | .ok (n, rest) =>
            if isTrailing n then .error .malformed
            else if isLeading n then
              match trailingUnit rest with
              | .error fault => .error fault
              | .ok (m, rest) => takeQuoted fuel (pairChar n m :: acc) rest
            else takeQuoted fuel (Char.ofNat n :: acc) rest
        else match shortEscape? e with
          | some d => takeQuoted fuel (d :: acc) rest
          | none => .error .malformed
    else if c.toNat < 32 then .error .malformed
    else takeQuoted fuel (c :: acc) cs

/-- The text behind a closing quote, for a reader who skips what stands before it. -/
def skipQuoted : Nat → List Char → Except Fault (List Char)
  | 0, _ => .error .truncated
  | _ + 1, [] => .error .truncated
  | fuel + 1, c :: cs =>
    if c = '"' then .ok cs
    else if c = '\\' then
      match cs with
      | [] => .error .truncated
      | e :: rest =>
        if e = 'u' then
          match fourHex rest with
          | .error fault => .error fault
          | .ok (_, rest) => skipQuoted fuel rest
        else if (shortEscape? e).isSome then skipQuoted fuel rest
        else .error .malformed
    else if c.toNat < 32 then .error .malformed
    else skipQuoted fuel cs

def quoted (cs : List Char) : Step Quoted :=
  let taken := (takeQuoted (cs.length + 1) [] cs).map (·.1)
  match skipQuoted (cs.length + 1) cs with
  | .ok rest => (⟨taken, none⟩, some rest)
  | .error fault => (⟨taken, some fault⟩, none)

/-! ### Numbers

A number is read as a double in two roundings: its leading digits, as many as fit into 64 bits, are
rounded to a double, and so is their product with the power of ten that is written behind them. -/

/-- The integer of the given digits behind those of `n`, as long as it fits into 64 bits, and the
number of digits that are left. -/
def leadingDigits : Nat → List Char → Nat × Nat
  | n, [] => (n, 0)
  | n, c :: cs =>
    let next := 10 * n + decimalValue [c]
    if next < UInt64.size then leadingDigits next cs else (n, cs.length + 1)

/-- Whether a number is in the range of doubles: it is read as `coefficient * 10 ^ exponent`. -/
def inDoubleRange (coefficient : Nat) (exponent : Int) : Bool :=
  coefficient = 0 || exponent < 0 || (exponent ≤ 308 &&
    Decimal.roundInteger coefficient * Decimal.roundInteger (Nat.pow 10 exponent.toNat)
      < Decimal.doubleOverflow)

/-- The exponent of a number, after its letter. -/
def exponentPart (cs : List Char) : Except Reading (Int × List Char) :=
  let (negative, cs) := match cs with
    | '+' :: rest => (false, rest)
    | '-' :: rest => (true, rest)
    | _ => (false, cs)
  let digits := cs.takeWhile isDigit
  let rest := cs.dropWhile isDigit
  if digits.isEmpty then .error (if rest.isEmpty then .unfinished else .broken .malformed)
  else
    let n : Int := decimalValue digits
    .ok (if negative then -n else n, rest)

/-- What follows the digits of a number that is no integer. -/
def realTail (coefficient : Nat) (exponent : Int) (cs : List Char) : Step Reading :=
  match cs with
  | c :: rest =>
    if c = 'e' || c = 'E' then
      match exponentPart rest with
      | .ok (e, rest) => (.real (inDoubleRange coefficient (exponent + e)), some rest)
      | .error r => (r, none)
    else (.real (inDoubleRange coefficient exponent), some cs)
  | [] => (.real (inDoubleRange coefficient exponent), some cs)

def wholeNumber (negative : Bool) (digits : List Char) : Reading :=
  let n := decimalValue digits
  if negative ∧ 0 < n ∧ n ≤ Nat.pow 2 63 then .integer (-n)
  else if ¬ negative ∧ n < UInt64.size then .integer n
  else
    let (coefficient, left) := leadingDigits 0 digits
    .real (inDoubleRange coefficient left)

/-- What follows the digits before a fraction or an exponent. -/
def afterInteger (negative : Bool) (digits : List Char) (cs : List Char) : Step Reading :=
  let (coefficient, left) := leadingDigits 0 digits
  match cs with
  | '.' :: rest =>
    let fraction := rest.takeWhile isDigit
    let rest := rest.dropWhile isDigit
    if fraction.isEmpty then (if rest.isEmpty then .unfinished else .broken .malformed, none)
    else
      let (coefficient, leftInFraction) := leadingDigits coefficient fraction
      realTail coefficient ((left : Int) - (fraction.length - leftInFraction)) rest
  | c :: _ =>
    if c = 'e' || c = 'E' then realTail coefficient left cs
    else (wholeNumber negative digits, some cs)
  | [] => (wholeNumber negative digits, some cs)

def number (negative : Bool) (cs : List Char) : Step Reading :=
  match cs with
  | [] => (.unfinished, none)
  | c :: rest =>
    if c = '0' then
      if (rest.head?.map isDigit).getD false then (.broken .malformed, none)
      else afterInteger negative [c] rest
    else if isDigit c then
      afterInteger negative (cs.takeWhile isDigit) (cs.dropWhile isDigit)
    else (.broken .malformed, none)

/-! ### Values -/

mutual

/-- A value. Each step takes at least one character, so that `fuel` bounds the length. -/
def value : Nat → List Char → Step Reading
  | 0, _ => (.broken .truncated, none)
  | fuel + 1, cs =>
    match skipBlanks cs with
    | [] => (.broken .truncated, none)
    | c :: rest =>
      if c = 'n' then word ['u', 'l', 'l'] .null rest
      else if c = 't' then word ['r', 'u', 'e'] (.bool true) rest
      else if c = 'f' then word ['a', 'l', 's', 'e'] (.bool false) rest
      else if c = '"' then
        let (q, rest) := quoted rest
        (.quoted q, rest)
      else if c = '[' then
        match skipBlanks rest with
        | [] => (.array [] (.cut .truncated), none)
        | d :: rest' =>
          if d = ']' then (.array [] .closed, some rest')
          else
            let ((rs, tail), rest) := items fuel rest
            (.array rs tail, rest)
      else if c = '\x7b' then
        match skipBlanks rest with
        | [] => (.object [] (.cut .truncated), none)
        | d :: rest' =>
          if d = '\x7d' then (.object [] .closed, some rest')
          else
            let ((ms, tail), rest) := members fuel rest
            (.object ms tail, rest)
      else if c = '-' then number true rest
      else if isDigit c then number false (c :: rest)
      else (.broken .malformed, none)

def items : Nat → List Char → Step (List Reading × Tail)
  | 0, _ => (([], .cut .truncated), none)
  | fuel + 1, cs =>
    match value fuel cs with
    | (r, none) => (([r], .cut .malformed), none)
    | (r, some rest) =>
      match skipBlanks rest with
      | [] => (([r], .cut .truncated), none)
      | c :: rest =>
        if c = ']' then (([r], .closed), some rest)
        else if c = ',' then
          if (skipBlanks rest).head? = some ']' then
            (([r, .broken .malformed], .cut .malformed), none)
          else
            let ((rs, tail), rest) := items fuel rest
            ((r :: rs, tail), rest)
        else (([r], .cut .malformed), none)

def members : Nat → List Char → Step (List (Quoted × Reading) × Tail)
  | 0, _ => (([], .cut .truncated), none)
  | fuel + 1, cs =>
    match skipBlanks cs with
    | [] => (([], .cut .truncated), none)
    | c :: rest =>
      if c = '"' then
        match quoted rest with
        | (q, none) => (([(q, .broken .malformed)], .cut .malformed), none)
        | (q, some rest) =>
          match skipBlanks rest with
          | [] => (([(q, .broken .truncated)], .cut .truncated), none)
          | c :: rest =>
            if c = ':' then
              match value fuel rest with
              | (r, none) => (([(q, r)], .cut .malformed), none)
              | (r, some rest) =>
                match skipBlanks rest with
                | [] => (([(q, r)], .cut .truncated), none)
                | c :: rest =>
                  if c = '\x7d' then (([(q, r)], .closed), some rest)
                  else if c = ',' then
                    let ((ms, tail), rest) := members fuel rest
                    (((q, r) :: ms, tail), rest)
                  else (([(q, r)], .cut .malformed), none)
            else (([(q, .broken .malformed)], .cut .malformed), none)
      else (([], .cut .malformed), none)

end

/-- What a text shows, and what follows the value. -/
def reading (cs : List Char) : Step Reading := value (cs.length + 1) cs

end TableCatalog.Json
