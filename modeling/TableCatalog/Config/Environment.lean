import TableCatalog.Config.Basic

/-!
# Settings from the environment

An environment variable whose name begins with `LAKECAT__` gives a setting. The rest of its name,
with full stops for double underscores, is the key of the setting, in lower case; the parts of a key
between full stops name a setting inside a mapping. The variable that would enable data tokens is
left out.
-/

namespace TableCatalog

/-! ## The notation of settings in variables

The text of a variable writes a truth value, a number, a text in double quotes, a character in
single quotes, a sequence in brackets, a mapping in braces, or stands for itself. A text that is not
written correctly stands for itself as a whole, blanks included.
-/

namespace Setting.Notation

def isBlank (c : Char) : Bool :=
  c = ' ' || c = '\t' || c = '\n' || c = '\r' || c.toNat = 12

def skipBlanks (cs : List Char) : List Char := cs.dropWhile isBlank

def isSeparator (c : Char) : Bool :=
  c = ',' || c = '\x7b' || c = '\x7d' || c = '[' || c = ']'

def isKeyChar (c : Char) : Bool := c.isAlphanum || c = '_' || c = '-'

/-- The text up to the closing quote as it is written, and what follows it. -/
def splitQuoted : List Char → Option (List Char × List Char)
  | [] => none
  | '"' :: rest => some ([], rest)
  | '\\' :: c :: rest => (splitQuoted rest).map fun (body, rest) => ('\\' :: c :: body, rest)
  | c :: rest => (splitQuoted rest).map fun (body, rest) => (c :: body, rest)

def codePoint? (digits : List Char) : Option Char :=
  if digits.all Text.isHexDigit then
    let n := Text.hexadecimalValue digits
    if n < 0xD800 ∨ 0xDFFF < n ∧ n ≤ 0x10FFFF then some (Char.ofNat n) else none
  else none

def isPlain (c : Char) : Bool := c = '\t' || (0x20 ≤ c.toNat && c.toNat ≠ 0x7F)

/-- The text that is written between quotes. -/
def unescape? : List Char → Option (List Char)
  | [] => some []
  | '\\' :: 'u' :: a :: b :: c :: d :: rest => do
    return (← codePoint? [a, b, c, d]) :: (← unescape? rest)
  | '\\' :: 'U' :: a :: b :: c :: d :: e :: f :: g :: h :: rest => do
    return (← codePoint? [a, b, c, d, e, f, g, h]) :: (← unescape? rest)
  | '\\' :: c :: rest =>
    match c with
    | '"' => (unescape? rest).map ('"' :: ·)
    | '\\' => (unescape? rest).map ('\\' :: ·)
    | 'b' => (unescape? rest).map (Char.ofNat 8 :: ·)
    | 'f' => (unescape? rest).map (Char.ofNat 12 :: ·)
    | 'n' => (unescape? rest).map ('\n' :: ·)
    | 'r' => (unescape? rest).map ('\r' :: ·)
    | 't' => (unescape? rest).map ('\t' :: ·)
    | _ => none
  | c :: rest => if c ≠ '\\' ∧ isPlain c then (unescape? rest).map (c :: ·) else none

/-- The first characters of a text that fit into so many bytes. -/
def fitting : Nat → List Char → List Char
  | _, [] => []
  | n, c :: cs => if c.utf8Size ≤ n then c :: fitting (n - c.utf8Size) cs else []

/-- What a text with escapes keeps of the characters before the first one: as many bytes as they
are characters, so that ASCII is kept whole. -/
def keptBeforeEscape (cs : List Char) : List Char := fitting cs.length cs

/-- The text that is written as `body` between quotes. -/
def textOf? (body : List Char) : Option (List Char) :=
  (unescape? body).map fun text =>
    if '\\' ∈ body then
      let before := body.takeWhile (· ≠ '\\')
      keptBeforeEscape before ++ text.drop before.length
    else text

def quotedText? (cs : List Char) : Option (String × List Char) :=
  match splitQuoted cs with
  | some (body, rest) => (textOf? body).map fun s => (String.ofList s, rest)
  | none => none

/-- A bare value: a number, or a text. -/
def bare (cs : List Char) : Setting :=
  let cs := Text.trimWhere Text.isBlank cs
  let real := if '.' ∈ cs then
      (Decimal.Numeral.parse? cs).map fun n => Setting.real (n.round Decimal.double)
    else none
  (real.or (integer? UInt64.size cs)).getD (.text (String.ofList cs))

/-- What follows a key of a mapping and its equals sign. -/
def afterKey? (cs : List Char) : Option (List Char) :=
  let afterName? : Option (List Char) :=
    match skipBlanks cs with
    | '"' :: rest => (quotedText? rest).map (·.2)
    | cs =>
      match cs.takeWhile isKeyChar with
      | [] => none
      | _ => some (cs.dropWhile isKeyChar)
  match afterName?.map skipBlanks with
  | some ('=' :: rest) => some rest
  | _ => none

mutual

/-- A value and what follows it. Each level of brackets takes a character, so that `fuel` bounds
their depth. -/
def value? : Nat → List Char → Option (Setting × List Char)
  | 0, _ => none
  | fuel + 1, cs =>
    let cs := skipBlanks cs
    let found : Option (Setting × List Char) :=
      match cs with
      | 't' :: 'r' :: 'u' :: 'e' :: rest => some (.bool true, rest)
      | 'f' :: 'a' :: 'l' :: 's' :: 'e' :: rest => some (.bool false, rest)
      | '"' :: rest => (quotedText? rest).map fun (s, rest) => (.text s, rest)
      | '[' :: rest => (items? fuel rest).map fun rest => (.sequence, rest)
      | '\'' :: c :: '\'' :: rest => some (.character c, rest)
      | '\'' :: _ => none
      | c :: rest =>
        if c = '\x7b' then (entries? fuel rest).map fun rest => (.mapping, rest)
        else some (bare (cs.takeWhile (!isSeparator ·)), cs.dropWhile (!isSeparator ·))
      | [] => some (bare [], [])
    found.map fun (s, rest) => (s, skipBlanks rest)

/-- What follows the items of a sequence. A comma may stand behind the last one. -/
def items? : Nat → List Char → Option (List Char)
  | 0, _ => none
  | _ + 1, ']' :: rest => some rest
  | fuel + 1, cs =>
    match value? fuel cs with
    | some (_, ',' :: rest) => items? fuel rest
    | some (_, ']' :: rest) => some rest
    | _ => none

/-- What follows the entries of a mapping. A comma may stand behind the last one. -/
def entries? : Nat → List Char → Option (List Char)
  | 0, _ => none
  | _ + 1, '\x7d' :: rest => some rest
  | fuel + 1, cs =>
    match (afterKey? cs).bind (value? fuel) with
    | some (_, ',' :: rest) => entries? fuel rest
    | some (_, '\x7d' :: rest) => some rest
    | _ => none

end

def read (s : String) : Setting :=
  match value? (2 * s.length + 2) s.toList with
  | some (setting, []) => setting
  | _ => .text s

end Setting.Notation

/-! ## Variables

Variables count in the order in which the process has them, whatever their names are, and a later
one takes the place of an earlier one; only two mappings are merged.
-/

/-- Variables with their values, in the order in which the process has them. -/
abbrev Environment := List (String × String)

namespace Environment

def namePrefix : List Char := "LAKECAT__".toList

/-- The key that no variable gives. -/
def ignoredKey : List Char := "data_token_enabled".toList

def lowered (cs : List Char) : List Char := cs.map Char.toLower

/-- The rest of a name behind its beginning. -/
def afterPrefix? (name : List Char) : Option (List Char) :=
  let name := Text.trimWhere Text.isBlank name
  let n := namePrefix.length
  if lowered (name.take n) = lowered namePrefix then some (name.drop n) else none

/-- A text with full stops for double underscores, from left to right. -/
def withFullStops : List Char → List Char
  | '_' :: '_' :: rest => '.' :: withFullStops rest
  | c :: rest => c :: withFullStops rest
  | [] => []

/-- The parts of the key of a variable, if it gives a setting. -/
def keyParts? (name : String) : Option (List (List Char)) :=
  match (afterPrefix? name.toList).map withFullStops with
  | none => none
  | some key =>
    if lowered key = ignoredKey then none
    else
      let parts := (lowered (Text.trimWhere Text.isBlank key)).splitOn '.'
      if parts.any (·.isEmpty) then none else some parts

/-- The setting that a variable gives for a field: a mapping if the key leads inside the field. -/
def settingOf? (field name value : String) : Option Setting :=
  match keyParts? name with
  | some [part] => if part = field.toList then some (Setting.Notation.read value) else none
  | some (part :: _) => if part = field.toList then some .mapping else none
  | _ => none

/-- The setting for a field: that of the last variable that gives one. -/
def setting? (env : Environment) (field : String) : Option Setting :=
  (env.filterMap fun e => settingOf? field e.1 e.2).getLast?

end Environment

end TableCatalog
