import TableCatalog.Text.Basic
import TableCatalog.Text.Composition
import TableCatalog.Text.Direction
import TableCatalog.Url.Domain.Folding
import TableCatalog.Url.Domain.Unlisted

/-!
# Hosts of URLs

The host of a scheme that is known to address the network is a domain name or an address; the host
of any other scheme is taken as it is, unless it is an address of version 6 in brackets.
-/

namespace TableCatalog.Url

/-! ## Percent encoding

A character that must not stand for itself in some part of a URL is written as the bytes of its
UTF-8 form, each as a percent sign and two upper case hexadecimal digits. Characters beyond ASCII
are always written so; which ASCII characters are depends on the part.
-/

def isControl (c : Char) : Bool := c.toNat < 0x20 || c.toNat = 0x7F

def encodedInFragment (c : Char) : Bool :=
  isControl c || c = ' ' || c = '"' || c = '<' || c = '>' || c.toNat = 0x60

def encodedInPath (c : Char) : Bool :=
  encodedInFragment c || c = '#' || c = '?' || c = '\x7b' || c = '\x7d'

def encodedInUserinfo (c : Char) : Bool :=
  encodedInPath c || c = '/' || c = ':' || c = ';' || c = '=' || c = '@' || c = '[' || c = '\\' ||
    c = ']' || c = '^' || c = '|'

def encodedInQuery (c : Char) : Bool :=
  isControl c || c = ' ' || c = '"' || c = '#' || c = '<' || c = '>'

def encodedInSpecialQuery (c : Char) : Bool := encodedInQuery c || c.toNat = 0x27

def percentByte (b : UInt8) : List Char :=
  ['%', Text.upperHexDigit (b.toNat / 16), Text.upperHexDigit (b.toNat % 16)]

def percentEncodeChar (encoded : Char → Bool) (c : Char) : List Char :=
  if encoded c || 0x80 ≤ c.toNat then (String.utf8EncodeChar c).flatMap percentByte else [c]

def percentEncode (encoded : Char → Bool) (cs : List Char) : String :=
  String.ofList (cs.flatMap (percentEncodeChar encoded))

/-- The bytes of a text in which percent signs with two digits behind them stand for bytes. -/
def percentDecode : List Char → List UInt8
  | '%' :: a :: b :: rest =>
    match Text.hexValue? a, Text.hexValue? b with
    | some x, some y => UInt8.ofNat (16 * x + y) :: percentDecode rest
    | _, _ => String.utf8EncodeChar '%' ++ percentDecode (a :: b :: rest)
  | c :: rest => String.utf8EncodeChar c ++ percentDecode rest
  | [] => []

/-! ## Punycode

A label of a domain name that is not ASCII is written as its ASCII characters and, behind a hyphen,
a row of numbers that say where the other characters belong. A number is written in digits of base
36 whose weights adapt to the numbers before it.
-/

namespace Domain.Punycode

def threshold (bias i : Nat) : Nat := min 26 (max 1 (36 * (i + 1) - bias))

def digit (n : Nat) : Char := Char.ofNat (if n < 26 then 'a'.toNat + n else '0'.toNat + n - 26)

def digitValue? (c : Char) : Option Nat :=
  if 'a' ≤ c ∧ c ≤ 'z' then some (c.toNat - 'a'.toNat)
  else if 'A' ≤ c ∧ c ≤ 'Z' then some (c.toNat - 'A'.toNat)
  else if '0' ≤ c ∧ c ≤ '9' then some (c.toNat - '0'.toNat + 26)
  else none

/-- The part of the new bias that comes from the size of the numbers; `fuel` bounds the number of
divisions. -/
def scaleDown : Nat → Nat → Nat × Nat
  | 0, delta => (0, delta)
  | fuel + 1, delta =>
    if 455 < delta then
      let (k, d) := scaleDown fuel (delta / 35)
      (k + 36, d)
    else (0, delta)

/-- The bias after a number, when so many characters are placed. -/
def adapt (delta count : Nat) (isFirst : Bool) : Nat :=
  let delta := if isFirst then delta / 700 else delta / 2
  let delta := delta + delta / count
  let (k, d) := scaleDown delta delta
  k + 36 * d / (d + 38)

/-- The digits of a number from the given place on; `fuel` bounds their count. -/
def number (bias : Nat) : Nat → Nat → Nat → List Char
  | 0, _, _ => []
  | fuel + 1, i, q =>
    let t := threshold bias i
    if q < t then [digit q]
    else digit (t + (q - t) % (36 - t)) :: number bias fuel (i + 1) ((q - t) / (36 - t))

/-- What has been written: the characters placed, the pending number and the bias. -/
structure Writing where
  placed : Nat
  delta : Nat
  bias : Nat
  isFirst : Bool
  digits : List Char

/-- Writes the places of one character, going through the label once. -/
def writeAll (n : Nat) : List Char → Writing → Writing
  | [], w => w
  | c :: cs, w =>
    if c.toNat < n then writeAll n cs { w with delta := w.delta + 1 }
    else if c.toNat = n then
      writeAll n cs
        { placed := w.placed + 1
          delta := 0
          bias := adapt w.delta (w.placed + 1) w.isFirst
          isFirst := false
          digits := w.digits ++ number w.bias (w.delta + 1) 0 w.delta }
    else writeAll n cs w

/-- Writes the places of the given characters, in increasing order from `n` on. -/
def writeFrom (label : List Char) : Nat → List Nat → Writing → List Char
  | _, [], w => w.digits
  | n, m :: ms, w =>
    let w := writeAll m label { w with delta := w.delta + (m - n) * (w.placed + 1) }
    writeFrom label (m + 1) ms { w with delta := w.delta + 1 }

def encode (label : List Char) : List Char :=
  let basic := label.filter (·.toNat < 128)
  let others := ((label.map Char.toNat).filter (128 ≤ ·)).mergeSort.eraseReps
  (if basic.isEmpty then [] else basic ++ ['-']) ++
    writeFrom label 128 others ⟨basic.length, 0, 72, true, []⟩

/-- What numbers and weights stay below. -/
def wordBound : Nat := UInt32.size

/-- Reads a number: its value added to `i`, and the rest. -/
def readNumber (bias : Nat) : Nat → Nat → Nat → List Char → Option (Nat × List Char)
  | _, _, _, [] => none
  | place, weight, i, c :: cs => do
    let d ← digitValue? c
    let i := i + d * weight
    let t := threshold bias place
    if wordBound ≤ i then none
    else if d < t then some (i, cs)
    else if wordBound ≤ weight * (36 - t) then none
    else readNumber bias (place + 1) (weight * (36 - t)) i cs

/-- Places the characters of the numbers that are left; `fuel` bounds their count. -/
def place : Nat → Nat → Nat → Nat → Bool → List Char → List Char → Option (List Char)
  | 0, _, _, _, _, _, _ => none
  | _ + 1, _, _, _, _, label, [] => some label
  | fuel + 1, n, i, bias, isFirst, label, cs => do
    let (j, rest) ← readNumber bias 0 1 i cs
    let count := label.length + 1
    let n := n + j / count
    if n < 128 ∨ 0x10FFFF < n ∨ 0xD800 ≤ n ∧ n ≤ 0xDFFF then none
    else
      let k := j % count
      place fuel n (k + 1) (adapt (j - i) count isFirst) false
        (label.take k ++ Char.ofNat n :: label.drop k) rest

/-- Reads a written form. A hyphen at its beginning belongs to the digits, among which it is
none. -/
def decode? (cs : List Char) : Option (List Char) :=
  let digits := (cs.reverse.takeWhile (· ≠ '-')).reverse
  let basic := cs.take (cs.length - digits.length - 1)
  if basic.any (128 ≤ ·.toNat) ∨ cs.head? = some '-' ∧ basic.isEmpty then none
  else place (digits.length + 1) 128 0 72 true basic digits

end Domain.Punycode

/-! ## Labels of domain names

Which labels may stand in a domain name, apart from the characters that no host holds: a label
begins with no mark, joiners stand only where they change how letters are written, and if letters
written from right to left occur in the name, each label is written in one direction.
-/

namespace Domain

/-! ### Joiners -/

/-- The character that keeps letters apart which would be joined. -/
def nonJoiner : Char := '\u200C'

/-- The character that joins what would stand apart. -/
def joiner : Char := '\u200D'

def nextLetter? (cs : List Char) : Option Char := cs.find? (!Text.isTransparent ·)

/-- Whether the joiners of a label stand where they may; `before` holds the characters before the
rest, the last one first. Either one may stand behind a mark that takes the vowel from a letter, and
one that keeps letters apart between two letters that would be joined. -/
def joinersFit (before : List Char) : List Char → Bool
  | [] => true
  | c :: cs =>
    (if c = nonJoiner ∨ c = joiner then
      before.head?.any (Text.combiningClass · = Text.virama) ||
        (c = nonJoiner && (nextLetter? before).any Text.joinsForward &&
          (nextLetter? cs).any Text.joinsBackward)
    else true) && joinersFit (c :: before) cs

/-! ### Directions -/

open Text (Direction)

def isTwoWay (name : List Char) : Bool :=
  name.any fun c => Direction.of c ∈ [.right, .arabic, .arabicNumber]

/-- The directions of the characters of a label without the marks at its end. -/
def directions (label : List Char) : List Direction :=
  ((label.map Direction.of).reverse.dropWhile (· = .nonspacingMark)).reverse

/-- What may stand in a label that is written from left to right. -/
def mayStandInLeft (d : Direction) : Bool :=
  !(d = .right || d = .arabic || d = .arabicNumber)

/-- What may stand in a label that is written from right to left. -/
def mayStandInRight (d : Direction) : Bool := d ≠ .left

/-- Whether a label is written in one direction. One that is written from right to left does not
hold numbers of two kinds. -/
def hasOneDirection (label : List Char) : Bool :=
  let ds := directions label
  match label.head?.map Direction.of with
  | none => true
  | some .left =>
    ds.all mayStandInLeft && ds.getLast?.all fun d => d ∈ [.left, .europeanNumber]
  | some d =>
    (d = .right || d = .arabic) && ds.all mayStandInRight &&
      (ds.getLast?.all fun d => d ∈ [.right, .arabic, .arabicNumber, .europeanNumber]) &&
      !(ds.contains .arabicNumber && ds.contains .europeanNumber)

/-! ### Whole labels -/

def longestLabel : Nat := 1000

def isProper (label : List Char) : Bool :=
  !label.any isUnlisted && !label.head?.any Text.isMark && joinersFit [] label &&
    (label.all (·.toNat < 128) || label.length ≤ longestLabel)

end Domain

/-! ## Domain names

The ASCII form of a domain name: the name is folded, and a label that is not ASCII is written in
Punycode behind `xn--`. A name is refused if it holds a character that no host may hold, if a label
may not stand in a name, or if a label that is written in Punycode already cannot be read or is not
the written form of a label.
-/

def isForbiddenInDomain (c : Char) : Bool :=
  isControl c || c = ' ' || c = '#' || c = '%' || c = '/' || c = ':' || c = '<' || c = '>' ||
    c = '?' || c = '@' || c = '[' || c = '\\' || c = ']' || c = '^' || c = '|'

namespace Domain

def mark : List Char := ['x', 'n', '-', '-']

def longestCode : Nat := 2000

/-- The characters of a label of a folded name. -/
def readLabel? (label : List Char) : Option (List Char) :=
  if mark.isPrefixOf label then
    let code := label.drop mark.length
    match if code.length ≤ longestCode then Punycode.decode? code else none with
    | some decoded =>
      if decoded.all (·.toNat < 128) || decoded.contains '.' || fold decoded != decoded then none
      else some decoded
    | none => none
  else some label

def writeLabel (label : List Char) : List Char :=
  if label.all (·.toNat < 128) then label else mark ++ Punycode.encode label

/-- The ASCII form of a domain name that is given in bytes. -/
def toAscii? (bytes : List UInt8) : Option (List Char) := do
  let text ← String.fromUTF8? ⟨bytes.toArray⟩
  let labels ← ((fold text.toList).splitOn '.').mapM readLabel?
  let isFit (label : List Char) : Bool :=
    isProper label && !label.any isForbiddenInDomain &&
      (hasOneDirection label || !labels.any isTwoWay)
  if labels.all isFit then some (['.'].intercalate (labels.map writeLabel)) else none

end Domain

/-! ## Addresses of version 4

An address is written as up to four numbers between full stops, the last of which fills the bytes
that are left. A number is hexadecimal after `0x` and octal after any other leading zero. A host
whose last label is a number is an address or refused.
-/

namespace Ipv4

def digits? (base : Nat) (cs : List Char) : Option (List Nat) :=
  cs.mapM fun c => (Text.hexValue? c).filter (· < base)

def number? (cs : List Char) : Option Nat :=
  match cs with
  | [] => none
  | '0' :: 'x' :: rest | '0' :: 'X' :: rest => (digits? 16 rest).map (Text.ofDigits 16)
  | '0' :: c :: rest => (digits? 8 (c :: rest)).map (Text.ofDigits 8)
  | _ => (digits? 10 cs).map (Text.ofDigits 10)

def labels (host : List Char) : List (List Char) :=
  let pieces := host.splitOn '.'
  if 1 < pieces.length ∧ pieces.getLast? = some [] then pieces.dropLast else pieces

def endsInNumber (host : List Char) : Bool :=
  match (labels host).getLast? with
  | some last => (!last.isEmpty && last.all Text.isDigit) || (number? last).isSome
  | none => false

/-- The value of the numbers of an address. All but the last one are bytes. -/
def value? (numbers : List Nat) : Option Nat :=
  match numbers.reverse with
  | [] => none
  | last :: before =>
    let leading := before.reverse
    if numbers.length ≤ 4 ∧ leading.all (· < 256) ∧ last < Nat.pow 256 (4 - leading.length) then
      some (leading.foldl (fun n b => n * 256 + b) 0 * Nat.pow 256 (4 - leading.length) + last)
    else none

def parse? (host : List Char) : Option UInt32 :=
  match (labels host).mapM number? with
  | some numbers => (value? numbers).map UInt32.ofNat
  | none => none

def text (a : UInt32) : String :=
  let n := a.toNat
  ".".intercalate ([n / 16777216, n / 65536 % 256, n / 256 % 256, n % 256].map toString)

end Ipv4

/-! ## Addresses of version 6

An address has eight groups of up to four hexadecimal digits between colons. One run of zero groups
may be left out between two colons, and the last two groups may be written as an address of version
4. The text leaves out the first of the longest runs of at least two zero groups.
-/

structure Ipv6 where
  groups : List UInt16
  length_eq : groups.length = 8
  deriving DecidableEq

namespace Ipv6

/-- A decimal number of a byte without leading zeros. -/
def byte? (cs : List Char) : Option Nat :=
  match cs with
  | [] => none
  | ['0'] => some 0
  | '0' :: _ => none
  | _ =>
    if cs.all Text.isDigit ∧ Text.decimalValue cs < 256 then some (Text.decimalValue cs) else none

/-- The two groups of an embedded address of version 4. -/
def embedded? (cs : List Char) : Option (List UInt16) :=
  match (cs.splitOn '.').mapM byte? with
  | some [a, b, c, d] => some [UInt16.ofNat (a * 256 + b), UInt16.ofNat (c * 256 + d)]
  | _ => none

/-- A group of up to four digits. -/
def group? (cs : List Char) : Option UInt16 :=
  if cs ≠ [] ∧ cs.length ≤ 4 ∧ cs.all Text.isHexDigit then
    some (UInt16.ofNat (Text.hexadecimalValue cs))
  else none

/-- The groups on one side of the omission; the last piece may be an embedded address. -/
def groups? : List (List Char) → Option (List UInt16)
  | [] => some []
  | [last] => if '.' ∈ last then embedded? last else (group? last).map ([·])
  | first :: rest => do return (← group? first) :: (← groups? rest)

/-- The pieces between colons on one side of the omission. -/
def side (cs : List Char) : List (List Char) := if cs.isEmpty then [] else cs.splitOn ':'

/-- The text before and after the first pair of colons, if there is one. -/
def splitOmission : List Char → Option (List Char × List Char)
  | ':' :: ':' :: rest => some ([], rest)
  | c :: rest => (splitOmission rest).map fun (a, b) => (c :: a, b)
  | [] => none

/-- Eight groups as an address. -/
def ofGroups? (groups : List UInt16) : Option Ipv6 :=
  if h : groups.length = 8 then some ⟨groups, h⟩ else none

/-- Reads an address. An omission stands for at least one group, and an embedded address ends the
text. -/
def parse? (cs : List Char) : Option Ipv6 :=
  match splitOmission cs with
  | none => (groups? (side cs)).bind ofGroups?
  | some (before, after) =>
    if '.' ∈ before then none
    else do
      let left ← groups? (side before)
      let right ← groups? (side after)
      if left.length + right.length ≤ 7 then
        ofGroups? (left ++ List.replicate (8 - left.length - right.length) 0 ++ right)
      else none

def zeroRun (groups : List UInt16) : Nat := (groups.takeWhile (· == 0)).length

/-- The place and the length of the first of the longest runs of zeros. -/
def longestRun (groups : List UInt16) : Nat × Nat :=
  (List.range groups.length).foldl (fun best i =>
    let n := zeroRun (groups.drop i)
    if best.2 < n then (i, n) else best) (0, 0)

def groupsText (groups : List UInt16) : String :=
  ":".intercalate (groups.map fun g => String.ofList (Text.hexadecimal g.toNat))

def text (a : Ipv6) : String :=
  let (start, length) := longestRun a.groups
  if 2 ≤ length then
    groupsText (a.groups.take start) ++ "::" ++ groupsText (a.groups.drop (start + length))
  else groupsText a.groups

/-- The text of an address for diagnostics, with an address of version 4 shown as such. -/
def diagnosticText (a : Ipv6) : String :=
  match a.groups with
  | [0, 0, 0, 0, 0, 0xFFFF, g, h] =>
    "::ffff:" ++ Ipv4.text (UInt32.ofNat (g.toNat * 65536 + h.toNat))
  | _ => a.text

end Ipv6

/-! ## Hosts -/

inductive Defect where
  /-- A host is missing where one has to be. -/
  | emptyHost
  /-- The host is no domain name. -/
  | invalidDomain
  /-- The port is no number below 65536. -/
  | invalidPort
  /-- The host ends in a number but is no address. -/
  | invalidIpv4
  /-- What stands in brackets is no address. -/
  | invalidIpv6
  /-- The host holds a character that no host holds. -/
  | invalidHostCharacter
  /-- The text begins with no scheme. -/
  | relative
  deriving DecidableEq, Repr

def Defect.message : Defect → String
  | .emptyHost => "empty host"
  | .invalidDomain => "invalid international domain name"
  | .invalidPort => "invalid port number"
  | .invalidIpv4 => "invalid IPv4 address"
  | .invalidIpv6 => "invalid IPv6 address"
  | .invalidHostCharacter => "invalid domain character"
  | .relative => "relative URL without a base"

inductive Host where
  /-- No characters at all. -/
  | empty
  /-- A domain name, or the host of a scheme that is not known. -/
  | name (text : String)
  | ipv4 (address : UInt32)
  | ipv6 (address : Ipv6)
  deriving DecidableEq

namespace Host

def text : Host → String
  | .empty => ""
  | .name s => s
  | .ipv4 a => Ipv4.text a
  | .ipv6 a => "[" ++ a.text ++ "]"

def isForbidden (c : Char) : Bool :=
  c.toNat = 0 || c = '\t' || c = '\n' || c = '\r' || c = ' ' || c = '#' || c = '/' || c = ':' ||
    c = '<' || c = '>' || c = '?' || c = '@' || c = '[' || c = '\\' || c = ']' || c = '^' || c = '|'

/-- An address of version 6, after its opening bracket. -/
def parseBracketed (cs : List Char) : Except Defect Host :=
  if cs.getLast? = some ']' then
    match Ipv6.parse? cs.dropLast with
    | some a => .ok (.ipv6 a)
    | none => .error .invalidIpv6
  else .error .invalidIpv6

/-- The host of an unknown scheme. -/
def parseOpaque (cs : List Char) : Except Defect Host :=
  match cs with
  | [] => .ok .empty
  | '[' :: rest => parseBracketed rest
  | _ =>
    if cs.any isForbidden then .error .invalidHostCharacter
    else .ok (.name (percentEncode isControl cs))

/-- The host of a scheme that is known to address the network. -/
def parse (cs : List Char) : Except Defect Host :=
  match cs with
  | '[' :: rest => parseBracketed rest
  | _ =>
    match Domain.toAscii? (percentDecode cs) with
    | none => .error .invalidDomain
    | some domain =>
      if domain.isEmpty then .error .emptyHost
      else if Ipv4.endsInNumber domain then
        match Ipv4.parse? domain with
        | some a => .ok (.ipv4 a)
        | none => .error .invalidIpv4
      else .ok (.name (String.ofList domain))

end Host

end TableCatalog.Url
