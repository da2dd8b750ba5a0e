import OrderReplay.Text.Alphanumeric

/-! Values that a filter may ask of a field: numbers, and regular expressions. Only
whether a text is such a value is decided here, as no event ever meets one. Braces never
reach a pattern closed, so repetitions that are counted are always malformed. -/
namespace OrderReplay.Filter.Pattern

inductive Item where
  | literal (c : Char)
  | set
  /-- A place between characters. -/
  | place
  deriving DecidableEq, Repr

def codePoint? (count : Nat) (text : Text) : Option (Item × Text) := do
  if text.length < count then none
  let value ← (text.take count).foldl (fun total c => do
    some ((← total) * 16 + (← Text.hexDigit? c))) (some 0)
  if value < 0xD800 ∨ (0xDFFF < value ∧ value < 0x110000) then
    some (.literal (Char.ofNat value), text.drop count)
  else none

/-- Signs stand for themselves behind a backslash, letters only for what they are defined
to. The borders of words are not among it, as they depend on the script. -/
def escaped? : Text → Option (Item × Text)
  | [] => none
  | c :: rest =>
    if c = 'x' then codePoint? 2 rest
    else if c = 'u' then codePoint? 4 rest
    else if c = 'U' then codePoint? 8 rest
    else if c = 'p' ∨ c = 'P' then
      match rest with
      | category :: rest =>
        if category.toLower ∈ ['c', 'l', 'm', 'n', 'p', 's', 'z'] then some (.set, rest) else none
      | [] => none
    else if c ∈ ['d', 's', 'w', 'D', 'S', 'W'] then some (.set, rest)
    else if c ∈ ['a', 'f', 't', 'n', 'r', 'v'] then some (.literal c, rest)
    else if c = 'A' ∨ c = 'z' then some (.place, rest)
    else if c.isAlphanum ∨ c = '<' ∨ c = '>' ∨ 0x7F < c.toNat then none
    else some (.literal c, rest)

/-! ## Sets in brackets -/

def namedSets : List Text :=
  ["alnum", "alpha", "ascii", "blank", "cntrl", "digit", "graph", "lower", "print", "punct",
    "space", "upper", "word", "xdigit"].map String.toList

def namedSet? (text : Text) : Option Text :=
  match text with
  | ':' :: rest =>
    let rest := match rest with
      | '^' :: rest => rest
      | _ => rest
    match Text.cut ':' rest with
    | (name, some (']' :: rest)) => if name ∈ namedSets then some rest else none
    | _ => none
  | _ => none

/-- The text of a set without what stands for itself only at its start: dashes, or else
a closing bracket. -/
def opened (text : Text) : Text :=
  let text := match text with
    | '^' :: rest => rest
    | _ => text
  match text with
  | ']' :: rest => rest
  | _ => text.dropWhile (· = '-')

def item? : Text → Option (Item × Text)
  | [] => none
  | '\\' :: rest => escaped? rest
  | c :: rest => some (.literal c, rest)

def member? (text : Text) : Option Text := do
  let (least, rest) ← item? text
  let alone : Option Text := if least = .place then none else some rest
  match rest with
  | '-' :: ']' :: _ | '-' :: '-' :: _ => alone
  | '-' :: rest =>
    let (greatest, rest) ← item? rest
    match least, greatest with
    | .literal a, .literal b => if a ≤ b then some rest else none
    | _, _ => none
  | _ => alone

/-- The text behind the bracket that closes the outermost of so many sets. Each step
takes a character at least, so the length bounds their number. -/
def set? : Nat → Nat → Text → Option Text
  | 0, _, _ => none
  | fuel + 1, depth, text =>
    match text with
    | [] => none
    | '[' :: rest =>
      match namedSet? rest with
      | some rest => set? fuel depth rest
      | none => set? fuel (depth + 1) (opened rest)
    | ']' :: rest => if depth ≤ 1 then some rest else set? fuel (depth - 1) rest
    | '&' :: '&' :: rest | '-' :: '-' :: rest | '~' :: '~' :: rest => set? fuel depth rest
    | _ => (member? text).bind (set? fuel depth)

/-! ## Groups -/

def isNameChar (c : Char) : Bool :=
  Text.isAlphanumeric c || c == '_' || c == '.' || c == '[' || c == ']'

def groupName? (names : List Text) (text : Text) : Option (Text × Text) :=
  match Text.cut '>' text with
  | (first :: others, some rest) =>
    if (Text.isAlphanumeric first || first == '_') && (Text.digit? first).isNone &&
        others.all isNameChar && (first :: others) ∉ names then
      some (first :: others, rest)
    else none
  | _ => none

/-- Flags up to the sign that ends them: whether they open a group, and the text behind.
A flag is set once, and one dash precedes those that are cleared. -/
def flags? (seen : List Char) : Text → Option (Bool × Text)
  | [] => none
  | c :: rest =>
    let dangling := seen.head? == some '-'
    if c = ':' then if dangling then none else some (true, rest)
    else if c = ')' then if dangling ∨ seen = [] then none else some (false, rest)
    else if c ∈ ['-', 'i', 'm', 's', 'U', 'u', 'R', 'x'] ∧ c ∉ seen then flags? (c :: seen) rest
    else none

inductive Opening where
  | group (name : Option Text) (rest : Text)
  | flags (rest : Text)

def opening? (names : List Text) : Text → Option Opening
  | '?' :: '=' :: _ | '?' :: '!' :: _ | '?' :: '<' :: '=' :: _ | '?' :: '<' :: '!' :: _ => none
  | '?' :: 'P' :: '<' :: rest | '?' :: '<' :: rest =>
    (groupName? names rest).map fun (name, rest) => .group (some name) rest
  | '?' :: rest =>
    (flags? [] rest).map fun (opens, rest) => if opens then .group none rest else .flags rest
  | rest => some (.group none rest)

/-- Whether a text ends a pattern well in which so many groups are open. `repeatable`
tells whether something stands before it that can be repeated. -/
def closes : Nat → List Text → Nat → Bool → Text → Bool
  | 0, _, _, _, _ => false
  | fuel + 1, names, depth, repeatable, text =>
    match text with
    | [] => depth == 0
    | '(' :: rest =>
      match opening? names rest with
      | some (.group name rest) => closes fuel (name.toList ++ names) (depth + 1) false rest
      | some (.flags rest) => closes fuel names depth false rest
      | none => false
    | ')' :: rest => 0 < depth && closes fuel names (depth - 1) true rest
    | '|' :: rest => closes fuel names depth false rest
    | '[' :: rest =>
      match set? text.length 1 (opened rest) with
      | some rest => closes fuel names depth true rest
      | none => false
    | '\\' :: rest =>
      match escaped? rest with
      | some (_, rest) => closes fuel names depth true rest
      | none => false
    | '\x7b' :: _ => false
    | '*' :: '?' :: rest | '+' :: '?' :: rest | '?' :: '?' :: rest | '*' :: rest | '+' :: rest
    | '?' :: rest => repeatable && closes fuel names depth true rest
    | _ :: rest => closes fuel names depth true rest

def isPattern (text : Text) : Bool := closes (text.length + 1) [] 0 false text

/-! ## Numbers -/

def isDigits (text : Text) : Bool := text.all fun c => (Text.digit? c).isSome

/-- Whether a text is a decimal number, with a sign, a point and an exponent as it
likes, or names what is no finite number. -/
def isNumber (text : Text) : Bool :=
  let unsigned (text : Text) : Text := match text with
    | '+' :: rest | '-' :: rest => rest
    | _ => text
  let text := Text.lower (unsigned text)
  let (significand, exponent) := Text.cut 'e' text
  let (whole, fraction) := Text.cut '.' significand
  let fraction := fraction.getD []
  text ∈ ["inf", "infinity", "nan"].map String.toList ||
    ((whole ≠ [] || fraction ≠ []) && isDigits whole && isDigits fraction &&
      exponent.all fun exponent => unsigned exponent ≠ [] && isDigits (unsigned exponent))

def isValue (text : Text) : Bool := isNumber text || isPattern text

end OrderReplay.Filter.Pattern
