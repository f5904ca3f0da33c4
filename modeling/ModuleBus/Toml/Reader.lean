import ModuleBus.Calendar
import ModuleBus.Toml.Basic

set_option autoImplicit false

/-! # Reading TOML

`Toml.read?` reads a whole text. Each reader below takes the characters that are left and gives a
value with the characters after it. Values nest and keys are dotted to a limited depth. -/

namespace ModuleBus.Toml

/-! ## Characters -/

/-- Blanks within a line. -/
def isSpace (c : Char) : Bool := c == ' ' || c == '\t'

/-- The text without leading blanks. -/
def skip (cs : List Char) : List Char := cs.dropWhile isSpace

/-- Characters that comments and strings may hold: all but controls, tabs excepted. -/
def isPlain (c : Char) : Bool := c == '\t' || (0x20 ≤ c.toNat && c.toNat != 0x7f)

/-- Characters of keys without quotes. -/
def isBare (c : Char) : Bool := c.isAlphanum || c == '_' || c == '-'

/-- The text after the end of a line. -/
def newline? : List Char → Option (List Char)
  | '\n' :: rest => some rest
  | '\r' :: '\n' :: rest => some rest
  | _ => none

/-- The text after a comment, if there is one. -/
def comment (cs : List Char) : List Char :=
  match cs with
  | '#' :: rest => rest.dropWhile isPlain
  | cs => cs

/-- The text after the rest of a line that holds nothing but blanks and a comment. -/
def lineEnd? (cs : List Char) : Option (List Char) :=
  match comment (skip cs) with
  | [] => some []
  | cs => newline? cs

/-- The text after blanks, comments and line ends; the number bounds how many there are. -/
def skipLines? : Nat → List Char → Option (List Char)
  | 0, _ => none
  | fuel + 1, cs =>
    match skip cs with
    | '#' :: rest => (newline? (comment ('#' :: rest))).bind (skipLines? fuel)
    | '\n' :: rest => skipLines? fuel rest
    | '\r' :: rest => (newline? ('\r' :: rest)).bind (skipLines? fuel)
    | rest => some rest

/-- The value of hexadecimal digits. -/
def hexValue? (cs : List Char) : Option Nat :=
  cs.foldlM
    (fun n c =>
      if c.isDigit then some (n * 16 + (c.toNat - '0'.toNat))
      else if 'a' ≤ c ∧ c ≤ 'f' then some (n * 16 + (c.toNat - 'a'.toNat + 10))
      else if 'A' ≤ c ∧ c ≤ 'F' then some (n * 16 + (c.toNat - 'A'.toNat + 10))
      else none)
    0

/-! ## Strings -/

/-- The character with a number written in `width` hexadecimal digits. -/
def coded? (width : Nat) (cs : List Char) : Option (Char × List Char) := do
  if cs.length < width then none
  else
    let n ← hexValue? (cs.take width)
    if n < 0xD800 ∨ (0xE000 ≤ n ∧ n < 0x110000) then some (Char.ofNat n, cs.drop width) else none

/-- The character of an escape, after its backslash. -/
def escape? : List Char → Option (Char × List Char)
  | 'u' :: rest => coded? 4 rest
  | 'U' :: rest => coded? 8 rest
  | c :: rest =>
    ([('b', '\x08'), ('t', '\t'), ('n', '\n'), ('f', '\x0c'), ('r', '\r'), ('"', '"'),
      ('\\', '\\')].lookup c).map fun c => (c, rest)
  | [] => none

/-- A string in double quotes, after the opening one; the number bounds its length. -/
def basic? : Nat → List Char → Option (List Char × List Char)
  | 0, _ => none
  | _, [] => none
  | _, '"' :: rest => some ([], rest)
  | fuel + 1, '\\' :: rest => do
    let (c, rest) ← escape? rest
    let (s, rest) ← basic? fuel rest
    pure (c :: s, rest)
  | fuel + 1, c :: rest => do
    if isPlain c then
      let (s, rest) ← basic? fuel rest
      pure (c :: s, rest)
    else none

/-- A string in single quotes, after the opening one. -/
def literal? : List Char → Option (List Char × List Char)
  | [] => none
  | '\'' :: rest => some ([], rest)
  | c :: rest => do
    if isPlain c then
      let (s, rest) ← literal? rest
      pure (c :: s, rest)
    else none

/-- The quotes at the start of a text of several lines: at most two of them belong to the text
where it goes on, and up to two more where three close it. -/
inductive Quotes where
  | inside (count : Nat)
  | closing (count : Nat)

/-- How the quotes `q` at the start of `cs` are taken. -/
def quotes (q : Char) (cs : List Char) : Quotes :=
  let count := (cs.takeWhile (· == q)).length
  if count < 3 then .inside count else .closing (min count 5 - 3)

/-- The blanks and line ends that a backslash at the end of a line joins. -/
def joined? : Nat → List Char → Option (List Char)
  | 0, _ => none
  | fuel + 1, cs =>
    match skip cs with
    | '\n' :: rest => joined? fuel rest
    | '\r' :: '\n' :: rest => joined? fuel rest
    | rest => some rest

/-- A text of several lines in quotes `q`, after the opening ones and the line end that may follow
them. Escapes count if `escapes` says so. -/
def multiline? (q : Char) (escapes : Bool) : Nat → List Char → Option (List Char × List Char)
  | 0, _ => none
  | _, [] => none
  | fuel + 1, c :: rest =>
    if c = q then
      match quotes q (c :: rest) with
      | .closing count => some (List.replicate count q, rest.drop (count + 2))
      | .inside count => do
        let (s, rest) ← multiline? q escapes fuel (rest.drop (count - 1))
        pure (List.replicate count q ++ s, rest)
    else if c = '\\' && escapes then
      match newline? (skip rest) with
      | some after => do multiline? q escapes fuel (← joined? (after.length + 1) after)
      | none => do
        let (c, rest) ← escape? rest
        let (s, rest) ← multiline? q escapes fuel rest
        pure (c :: s, rest)
    else
      match newline? (c :: rest) with
      | some rest => do
        let (s, rest) ← multiline? q escapes fuel rest
        pure ('\n' :: s, rest)
      | none => do
        if isPlain c then
          let (s, rest) ← multiline? q escapes fuel rest
          pure (c :: s, rest)
        else none

/-- The text after the line end that may follow opening quotes. -/
def dropFirstLineEnd (cs : List Char) : List Char := (newline? cs).getD cs

/-- A string of any form. -/
def string? (cs : List Char) : Option (String × List Char) :=
  let text := Option.map fun (r : List Char × List Char) => (String.ofList r.1, r.2)
  match cs with
  | '"' :: '"' :: '"' :: rest =>
    text (multiline? '"' true (rest.length + 1) (dropFirstLineEnd rest))
  | '\'' :: '\'' :: '\'' :: rest =>
    text (multiline? '\'' false (rest.length + 1) (dropFirstLineEnd rest))
  | '"' :: rest => text (basic? (rest.length + 1) rest)
  | '\'' :: rest => text (literal? rest)
  | _ => none

/-! ## Keys -/

/-- Parts of a key and levels of a value at most, plus one. -/
def maxDepth : Nat := 80

/-- One part of a key. -/
def simpleKey? (cs : List Char) : Option (String × List Char) :=
  match cs with
  | '"' :: rest => (basic? (rest.length + 1) rest).map fun (s, rest) => (String.ofList s, rest)
  | '\'' :: rest => (literal? rest).map fun (s, rest) => (String.ofList s, rest)
  | cs =>
    let bare := cs.takeWhile isBare
    if bare.isEmpty then none else some (String.ofList bare, cs.drop bare.length)

/-- The parts of a key, with points and blanks between them. -/
def keyParts? : Nat → List Char → Option (List String × List Char)
  | 0, _ => none
  | fuel + 1, cs => do
    let (part, rest) ← simpleKey? (skip cs)
    match skip rest with
    | '.' :: rest =>
      let (parts, rest) ← keyParts? fuel rest
      pure (part :: parts, rest)
    | rest => pure ([part], rest)

/-- A key: all but its last part, the last part, and the text after it. -/
def key? (cs : List Char) : Option (List String × String × List Char) := do
  let (parts, rest) ← keyParts? (maxDepth - 1) cs
  pure (parts.dropLast, ← parts.getLast?, rest)

/-! ## Numbers -/

/-- Digits of the class `p`, single underscores between them; there is at least one digit. -/
def digits? (p : Char → Bool) : List Char → Option (List Char × List Char)
  | [] => none
  | c :: '_' :: rest =>
    if p c then
      match digits? p rest with
      | some (ds, rest) => some (c :: ds, rest)
      | none => none
    else none
  | c :: rest =>
    if p c then
      match digits? p rest with
      | some (ds, rest) => some (c :: ds, rest)
      | none => some ([c], rest)
    else none

/-- The sign of a number. -/
def sign (cs : List Char) : Bool × List Char :=
  match cs with
  | '-' :: rest => (true, rest)
  | '+' :: rest => (false, rest)
  | cs => (false, cs)

/-- A decimal integer: its sign and digits. Nothing follows a leading zero. -/
def decimal? (cs : List Char) : Option (Bool × List Char × List Char) := do
  let (negative, rest) := sign cs
  match rest with
  | '0' :: rest => pure (negative, ['0'], rest)
  | rest =>
    let (ds, rest) ← digits? Char.isDigit rest
    pure (negative, ds, rest)

/-- The value of digits in a base. -/
def value (base : Nat) (ds : List Char) : Nat :=
  ds.foldl (fun n c => n * base + (if c.isDigit then c.toNat - 48 else c.toNat % 32 + 9)) 0

/-- A hexadecimal digit. -/
def isHex (c : Char) : Bool := c.isDigit || ('a' ≤ c && c ≤ 'f') || ('A' ≤ c && c ≤ 'F')

/-- An integer of 64 bits with sign. -/
def bounded? (i : Int) (rest : List Char) : Option (Toml × List Char) :=
  if Int64.minValue.toInt ≤ i ∧ i ≤ Int64.maxValue.toInt then some (.integer i, rest) else none

/-- An integer. -/
def integer? (cs : List Char) : Option (Toml × List Char) := do
  match cs with
  | '0' :: 'x' :: rest =>
    let (ds, rest) ← digits? isHex rest
    bounded? (value 16 ds) rest
  | '0' :: 'o' :: rest =>
    let (ds, rest) ← digits? (fun c => '0' ≤ c && c ≤ '7') rest
    bounded? (value 8 ds) rest
  | '0' :: 'b' :: rest =>
    let (ds, rest) ← digits? (fun c => c == '0' || c == '1') rest
    bounded? (value 2 ds) rest
  | cs =>
    let (negative, ds, rest) ← decimal? cs
    bounded? (if negative then -(value 10 ds : Int) else value 10 ds) rest

/-- The value of the digits of an exponent; once it reaches 65536, further digits are passed
over. -/
def exponentValue (ds : List Char) : Nat :=
  ds.foldl (fun n c => if n < 0x10000 then value 10 [c] + 10 * n else n) 0

/-- The exponent of a number. -/
def exponent? : List Char → Option (Int × List Char)
  | c :: rest =>
    if c = 'e' ∨ c = 'E' then
      let (negative, rest) := sign rest
      (digits? Char.isDigit rest).map fun (ds, rest) =>
        (if negative then -(exponentValue ds : Int) else exponentValue ds, rest)
    else none
  | [] => none

/-- The text starts with a number that has a point or an exponent. -/
def isFraction (cs : List Char) : Bool :=
  match decimal? cs with
  | some (_, _, c :: _) => c == '.' || c == 'e' || c == 'E'
  | _ => false

/-- Halfway from the largest floating-point number to `2 ^ 1024`: the least number that rounds to
no finite one. -/
def tooLarge : Nat := (1 <<< 1024) - (1 <<< 970)

/-- The digits, counted in units of `10 ^ e`, write a number that rounds to a finite one. How many
digits it has before the point settles this, unless there are 309 of them. -/
def isFinite (ds : List Char) (e : Int) : Bool :=
  let n := value 10 ds
  let size := (ds.dropWhile (· == '0')).length + e
  if n = 0 ∨ size ≤ 308 then true
  else if size > 309 then false
  else if e ≥ 0 then n * Nat.pow 10 e.toNat < tooLarge
  else n < tooLarge * Nat.pow 10 (-e).toNat

/-- A number with a point or an exponent; one that is too large is refused, unless it is below
zero. -/
def fraction? (cs : List Char) : Option (Toml × List Char) := do
  let (negative, whole, rest) ← decimal? cs
  let (part, rest) ← match rest with
    | '.' :: rest => digits? Char.isDigit rest
    | rest => some ([], rest)
  let (exponent, rest) ← match rest with
    | 'e' :: _ | 'E' :: _ => exponent? rest
    | rest => some (0, rest)
  if isFinite (whole ++ part) (exponent - part.length) || negative then some (.real, rest)
  else none

/-! ## Dates and times -/

/-- A number of exactly `width` digits between two bounds. -/
def fixed? (width low high : Nat) (cs : List Char) : Option (Nat × List Char) :=
  let ds := cs.take width
  let n := value 10 ds
  if ds.length = width ∧ ds.all Char.isDigit ∧ low ≤ n ∧ n ≤ high then some (n, cs.drop width)
  else none

/-- The text after a given character. -/
def mark? (c : Char) : List Char → Option (List Char)
  | d :: rest => if c = d then some rest else none
  | [] => none

/-- The text after a date. -/
def date? (cs : List Char) : Option (List Char) := do
  let (year, rest) ← fixed? 4 0 9999 cs
  let (month, rest) ← fixed? 2 1 12 (← mark? '-' rest)
  let (_, rest) ← fixed? 2 1 (DateTime.daysInMonth year month) (← mark? '-' rest)
  pure rest

/-- The text after a time of day. -/
def time? (cs : List Char) : Option (List Char) := do
  let (_, rest) ← fixed? 2 0 23 cs
  let (_, rest) ← fixed? 2 0 59 (← mark? ':' rest)
  let (_, rest) ← fixed? 2 0 60 (← mark? ':' rest)
  match rest with
  | '.' :: rest => if rest.head?.any Char.isDigit then pure (rest.dropWhile Char.isDigit) else none
  | rest => pure rest

/-- The text after an offset from universal time, if there is one. -/
def offset? (cs : List Char) : Option (List Char) := do
  match cs with
  | c :: rest =>
    if c = 'Z' ∨ c = 'z' then pure rest
    else if c = '+' ∨ c = '-' then
      let (_, rest) ← fixed? 2 0 23 rest
      let (_, rest) ← fixed? 2 0 59 (← mark? ':' rest)
      pure rest
    else pure (c :: rest)
  | [] => pure []

/-- A text that starts like a date. -/
def isDate (cs : List Char) : Bool :=
  match cs.drop 4 with
  | '-' :: _ => (cs.take 4).all Char.isDigit
  | _ => false

/-- A text that starts like a time of day. -/
def isTime (cs : List Char) : Bool :=
  match cs.drop 2 with
  | ':' :: _ => (cs.take 2).all Char.isDigit
  | _ => false

/-- A date, a date with a time, or a time. -/
def moment? (cs : List Char) : Option (Toml × List Char) := do
  if isTime cs then pure (.date, ← time? cs)
  else
    let rest ← date? cs
    match rest with
    | c :: after =>
      if (c = 'T' ∨ c = 't' ∨ c = ' ') ∧ isTime after then
        pure (.date, ← offset? (← time? after))
      else pure (.date, rest)
    | [] => pure (.date, [])

/-! ## Values -/

/-- The text after a given word. -/
def word? : (word : List Char) → List Char → Option (List Char)
  | [], cs => some cs
  | w :: word, c :: cs => if w = c then word? word cs else none
  | _ :: _, [] => none

/-- A number, a date or a time. -/
def number? (cs : List Char) : Option (Toml × List Char) :=
  if isDate cs || isTime cs then moment? cs
  else if isFraction cs then fraction? cs
  else
    match (sign cs).2 with
    | 'i' :: 'n' :: 'f' :: rest => some (.real, rest)
    | 'n' :: 'a' :: 'n' :: rest => some (.real, rest)
    | _ => integer? cs

mutual

/-- The value at the start of a text. The first number bounds the steps, the second the depth. -/
def value? : Nat → Nat → List Char → Option (Toml × List Char)
  | 0, _, _ => none
  | fuel + 1, depth, cs =>
    match cs with
    | '"' :: _ | '\'' :: _ => (string? cs).map fun (s, rest) => (.text s, rest)
    | '[' :: rest =>
      match depth with
      | 0 => none
      | depth + 1 => (items? fuel depth rest).map fun (vs, rest) => (.array vs, rest)
    | '{' :: rest =>
      match depth with
      | 0 => none
      | depth + 1 =>
        match skip rest with
        | '}' :: rest => some (.table [], rest)
        | rest =>
          (entries? fuel depth (.table false false []) rest).map fun (t, rest) => (t.toToml, rest)
    | 't' :: rest => (word? "rue".toList rest).map fun rest => (.bool true, rest)
    | 'f' :: rest => (word? "alse".toList rest).map fun rest => (.bool false, rest)
    | cs => number? cs

/-- The items of an array up to its closing bracket. -/
def items? : Nat → Nat → List Char → Option (List Toml × List Char)
  | 0, _, _ => none
  | fuel + 1, depth, cs => do
    match ← skipLines? (cs.length + 1) cs with
    | ']' :: rest => pure ([], rest)
    | cs =>
      let (v, rest) ← value? fuel depth cs
      match ← skipLines? (rest.length + 1) rest with
      | ',' :: rest =>
        let (vs, rest) ← items? fuel depth rest
        pure (v :: vs, rest)
      | ']' :: rest => pure ([v], rest)
      | _ => none

/-- The entries of an inline table up to its closing brace, added to `node`. -/
def entries? : Nat → Nat → Node → List Char → Option (Node × List Char)
  | 0, _, _, _ => none
  | fuel + 1, depth, node, cs => do
    let (path, key, rest) ← key? cs
    let (v, rest) ← value? fuel depth (skip (← mark? '=' rest))
    let node ← node.insert? path key v
    match skip rest with
    | ',' :: rest => entries? fuel depth node rest
    | '}' :: rest => pure (node, rest)
    | _ => none

end

/-! ## Texts -/

/-- Reads the lines that are left into the table `root`; keys go into the table at the path
`header`. -/
def lines? : Nat → (root : Node) → (header : List String) → List Char → Option Node
  | 0, _, _, _ => none
  | fuel + 1, root, header, cs => do
    match skip cs with
    | [] => pure root
    | '#' :: rest => lines? fuel root header (← lineEnd? ('#' :: rest))
    | '\n' :: rest => lines? fuel root header rest
    | '\r' :: rest => lines? fuel root header (← newline? ('\r' :: rest))
    | '[' :: '[' :: rest =>
      let (path, key, rest) ← key? rest
      let rest ← lineEnd? (← mark? ']' (← mark? ']' rest))
      lines? fuel (← root.openElement? path key) (path ++ [key]) rest
    | '[' :: rest =>
      let (path, key, rest) ← key? rest
      let rest ← lineEnd? (← mark? ']' rest)
      lines? fuel (← root.openTable? path key) (path ++ [key]) rest
    | cs =>
      let (path, key, rest) ← key? cs
      let (v, rest) ← value? (2 * rest.length + 2) (maxDepth - 1) (skip (← mark? '=' rest))
      let rest ← lineEnd? rest
      let root ← root.modify? false (·.insert? path key v) header
      lines? fuel root header rest

/-- The table that a text writes; a byte order mark may come first. -/
def read? (s : String) : Option Toml :=
  let cs := match s.toList with
    | '\uFEFF' :: rest => rest
    | cs => cs
  (lines? (cs.length + 1) (.table false false []) [] cs).map Node.toToml

end ModuleBus.Toml
