import TelemetrySidecar.Binary64.DecimalText
import TelemetrySidecar.Text.Digit
import TelemetrySidecar.Toml.Item
import TelemetrySidecar.Word

/-
  Scalars of a TOML document

  Strings in four kinds of quotes, numbers, dates and times. Every reading
  function gives what it read and what follows, or nothing.
-/

namespace TelemetrySidecar.Toml

def isBlank (c : Char) : Bool := c == ' ' || c == '\t'

def skipBlanks (s : List Char) : List Char := s.dropWhile isBlank

/-- What follows a line break. -/
def dropBreak? : List Char → Option (List Char)
  | '\n' :: s => some s
  | '\r' :: '\n' :: s => some s
  | _ => none

/-- The characters of strings and comments within a line. -/
def isPrintable (c : Char) : Bool := c == '\t' || (0x20 ≤ c.toNat && c.toNat != 0x7F)

/-! ## Strings -/

/-- The character of an escape, after its backslash. -/
def takeEscape : List Char → Option (Char × List Char)
  | 'b' :: s => some ('\x08', s)
  | 't' :: s => some ('\t', s)
  | 'n' :: s => some ('\n', s)
  | 'f' :: s => some ('\x0c', s)
  | 'r' :: s => some ('\r', s)
  | '"' :: s => some ('"', s)
  | '\\' :: s => some ('\\', s)
  | 'u' :: s => Text.takeCodePoint 4 s
  | 'U' :: s => Text.takeCodePoint 8 s
  | _ => none

/-- The rest of a string of one line, to and past its closing quote. -/
def takeLine (quote : Char) : Nat → List Char → Option (List Char × List Char)
  | 0, _ => none
  | fuel + 1, s =>
    match s with
    | [] => none
    | c :: rest =>
      if c = quote then some ([], rest)
      else if c = '\\' && quote = '"' then do
        let (x, rest) ← takeEscape rest
        let (more, rest) ← takeLine quote fuel rest
        return (x :: more, rest)
      else if isPrintable c then (takeLine quote fuel rest).map fun p => (c :: p.1, p.2)
      else none

/-- Past blanks and breaks. -/
def skipSpace : List Char → List Char
  | '\r' :: '\n' :: s => skipSpace s
  | c :: s => if c == ' ' || c == '\t' || c == '\n' then skipSpace s else c :: s
  | [] => []

/-- The rest of a string of several lines, to and past its three closing quotes.
Up to two more quotes belong to the string. A backslash at the end of a line
takes the space after it away. -/
def takeLines (quote : Char) : Nat → List Char → Option (List Char × List Char)
  | 0, _ => none
  | fuel + 1, s =>
    match s with
    | [] => none
    | c :: rest =>
      if c = quote then
        let run := (s.takeWhile (· == quote)).length
        if run < 3 then (takeLines quote fuel rest).map fun p => (c :: p.1, p.2)
        else
          let extra := min (run - 3) 2
          some (List.replicate extra quote, s.drop (3 + extra))
      else if c = '\\' && quote = '"' then
        if (dropBreak? (skipBlanks rest)).isSome then takeLines quote fuel (skipSpace rest)
        else do
          let (x, rest) ← takeEscape rest
          let (more, rest) ← takeLines quote fuel rest
          return (x :: more, rest)
      else match dropBreak? s with
        | some rest => (takeLines quote fuel rest).map fun p => ('\n' :: p.1, p.2)
        | none =>
          if isPrintable c then (takeLines quote fuel rest).map fun p => (c :: p.1, p.2)
          else none

/-- A string of one line, at whose opening quote the text stands. -/
def takeLineString (s : List Char) : Option (String × List Char) :=
  match s with
  | '"' :: rest => (takeLine '"' (rest.length + 1) rest).map fun p => (String.ofList p.1, p.2)
  | '\'' :: rest => (takeLine '\'' (rest.length + 1) rest).map fun p => (String.ofList p.1, p.2)
  | _ => none

/-- A string of any kind. A break right after three opening quotes does not
count. -/
def takeString (s : List Char) : Option (String × List Char) :=
  let lines (quote : Char) (rest : List Char) : Option (String × List Char) :=
    let rest := (dropBreak? rest).getD rest
    (takeLines quote (rest.length + 1) rest).map fun p => (String.ofList p.1, p.2)
  match s with
  | '"' :: '"' :: '"' :: rest => lines '"' rest
  | '\'' :: '\'' :: '\'' :: rest => lines '\'' rest
  | _ => takeLineString s

/-! ## Numbers -/

/-- Digits of a class, with single underscores between them. -/
def takeDigits (isDigit : Char → Bool) : List Char → List Char × List Char
  | [] => ([], [])
  | c :: s =>
    if isDigit c then
      match s with
      | '_' :: d :: rest =>
        if isDigit d then
          let (more, rest) := takeDigits isDigit (d :: rest)
          (c :: more, rest)
        else ([c], s)
      | s =>
        let (more, rest) := takeDigits isDigit s
        (c :: more, rest)
    else ([], c :: s)

/-- An integer of 64 bits. -/
def fitted (i : Int) (rest : List Char) : Option (Item × List Char) :=
  if Word.fitsSigned 64 i then some (.int i, rest) else none

/-- An integer after the mark of its base. -/
def takeBased (base : Nat) (s : List Char) : Option (Item × List Char) :=
  match takeDigits (Text.isDigitOf base) s with
  | ([], _) => none
  | (digits, rest) => fitted (Text.numeral base digits) rest

/-- An optional sign. -/
def takeSign : List Char → List Char × List Char
  | '+' :: s => (['+'], s)
  | '-' :: s => (['-'], s)
  | s => ([], s)

/-- Decimal digits without a needless zero. -/
def takeWhole (s : List Char) : Option (List Char × List Char) :=
  match s with
  | '0' :: rest => some (['0'], rest)
  | _ =>
    match takeDigits Char.isDigit s with
    | ([], _) => none
    | p => some p

def takeInteger (s : List Char) : Option (Item × List Char) :=
  match s with
  | '0' :: 'x' :: rest => takeBased 16 rest
  | '0' :: 'o' :: rest => takeBased 8 rest
  | '0' :: 'b' :: rest => takeBased 2 rest
  | _ => do
    let (sign, rest) := takeSign s
    let (digits, rest) ← takeWhole rest
    let n : Int := Text.numeral 10 digits
    fitted (if sign = ['-'] then -n else n) rest

/-- A point and digits. -/
def takeFraction : List Char → Option (List Char × List Char)
  | '.' :: s =>
    match takeDigits Char.isDigit s with
    | ([], _) => none
    | (digits, rest) => some ('.' :: digits, rest)
  | _ => none

/-- The mark of an exponent, an optional sign and digits. -/
def takeExponent : List Char → Option (List Char × List Char)
  | c :: s =>
    if c = 'e' || c = 'E' then
      let (sign, s) := takeSign s
      match takeDigits Char.isDigit s with
      | ([], _) => none
      | (digits, rest) => some ('e' :: sign ++ digits, rest)
    else none
  | [] => none

/-- A number with a fraction or an exponent, or a word for one that is not
finite. A positive number beyond all finite ones is none. -/
def takeFloat (s : List Char) : Option (Item × List Char) :=
  let (sign, rest) := takeSign s
  let negative := sign = ['-']
  match rest with
  | 'i' :: 'n' :: 'f' :: rest => some (.float (Binary64.infinity negative), rest)
  | 'n' :: 'a' :: 'n' :: rest => some (.float (Binary64.nan.withSign negative), rest)
  | _ => do
    let (whole, rest) ← takeWhole rest
    let (tail, rest) ← match takeFraction rest with
      | some (fraction, rest) =>
        match takeExponent rest with
        | some (exponent, rest) => some (fraction ++ exponent, rest)
        | none => some (fraction, rest)
      | none => takeExponent rest
    let x ← Binary64.read? (sign ++ whole ++ tail)
    if x = Binary64.infinity false then none else some (.float x, rest)

/-! ## Dates and times -/

/-- A number of exactly the digits given, between two bounds. -/
def takeField (count low high : Nat) (s : List Char) : Option (Nat × List Char) :=
  let digits := s.take count
  let n := Text.numeral 10 digits
  if digits.length = count && digits.all Char.isDigit && low ≤ n && n ≤ high then
    some (n, s.drop count)
  else none

def takeMark (c : Char) : List Char → Option (List Char)
  | d :: s => if d = c then some s else none
  | [] => none

def daysOf (year month : Nat) : Nat :=
  if month = 2 then
    if year % 4 = 0 && (year % 100 ≠ 0 || year % 400 = 0) then 29 else 28
  else if month = 4 || month = 6 || month = 9 || month = 11 then 30 else 31

/-- What follows a date. -/
def dropDate (s : List Char) : Option (List Char) := do
  let (year, s) ← takeField 4 0 9999 s
  let s ← takeMark '-' s
  let (month, s) ← takeField 2 1 12 s
  let s ← takeMark '-' s
  let (_, s) ← takeField 2 1 (daysOf year month) s
  return s

/-- What follows a time of day. -/
def dropTime (s : List Char) : Option (List Char) := do
  let (_, s) ← takeField 2 0 23 s
  let s ← takeMark ':' s
  let (_, s) ← takeField 2 0 59 s
  let s ← takeMark ':' s
  let (_, s) ← takeField 2 0 60 s
  match s with
  | '.' :: rest =>
    if rest.head?.any Char.isDigit then return rest.dropWhile Char.isDigit else return s
  | s => return s

/-- What follows a time zone, if there is one. -/
def dropZone (s : List Char) : List Char :=
  let hours (rest : List Char) : Option (List Char) := do
    let (_, rest) ← takeField 2 0 23 rest
    let rest ← takeMark ':' rest
    let (_, rest) ← takeField 2 0 59 rest
    return rest
  match s with
  | 'Z' :: rest | 'z' :: rest => rest
  | '+' :: rest | '-' :: rest => (hours rest).getD s
  | s => s

/-- What follows a date, a time, or both. -/
def dropMoment (s : List Char) : Option (List Char) :=
  match dropDate s with
  | none => dropTime s
  | some rest =>
    match rest with
    | c :: time =>
      if c = 'T' || c = 't' || c = ' ' then
        match dropTime time with
        | some rest => some (dropZone rest)
        | none => some rest
      else some rest
    | [] => some []

def takeMoment (s : List Char) : Option (Item × List Char) :=
  (dropMoment s).map fun rest =>
    (.moment (String.ofList (s.take (s.length - rest.length))), rest)

/-- A date, a time or a number, whatever the text begins with first of these. -/
def takeNumeric (s : List Char) : Option (Item × List Char) :=
  (takeMoment s).or ((takeFloat s).or (takeInteger s))

end TelemetrySidecar.Toml
