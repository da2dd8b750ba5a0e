import OrderReplay.Http.Percent

/-! Paths of addresses as lists of segments. Dot segments, also where their dots are
encoded, are resolved while the path is read. A segment that names a drive is never
taken back. -/
namespace OrderReplay.Http.Path

def isDot (segment : Text) : Bool :=
  match Text.lower segment with
  | ['.'] | ['%', '2', 'e'] => true
  | _ => false

def isDoubleDot (segment : Text) : Bool :=
  match Text.lower segment with
  | ['.', '.'] | ['.', '%', '2', 'e'] | ['%', '2', 'e', '.'] | ['%', '2', 'e', '%', '2', 'e'] =>
    true
  | _ => false

def isAlpha (c : Char) : Bool := ('a' ≤ c && c ≤ 'z') || ('A' ≤ c && c ≤ 'Z')

/-- The name of a drive: a letter, and a colon or the bar that may stand for it. -/
def isDrive : Text → Bool
  | [letter, mark] => isAlpha letter && (mark == ':' || mark == '|')
  | _ => false

/-- Whether a segment begins with the name of a drive: nothing or a backslash follows. -/
def beginsWithDrive : Text → Bool
  | letter :: mark :: rest =>
    isDrive [letter, mark] && (rest.head?.map (· == '\\')).getD true
  | _ => false

def back : List Text → List Text
  | [] => []
  | newest :: others => if beginsWithDrive newest then newest :: others else others

/-- A segment as it is kept. In addresses of files the name of a drive at the start of
the path has a colon, whichever mark it is given with. -/
def kept (ofFile : Bool) (read : List Text) (segment : Text) : Text :=
  if ofFile && read.isEmpty && isDrive segment then segment.take 1 ++ [':']
  else Percent.encode Percent.path segment

/-- One more segment behind those read so far, which come newest first. A double dot
takes back the newest, and at the end of a path a dot segment leaves an empty one. -/
def push (ofFile : Bool) (read : List Text) (segment : Text) (last : Bool) : List Text :=
  if isDoubleDot segment then
    if last then [] :: back read else back read
  else if isDot segment then
    if last then [] :: read else read
  else kept ofFile read segment :: read

def resolve (ofFile : Bool) (read : List Text) : List Text → List Text
  | [] => read.reverse
  | [segment] => (push ofFile read segment true).reverse
  | segment :: rest => resolve ofFile (push ofFile read segment false) rest

def segments (ofFile : Bool) (text : Text) : List Text :=
  resolve ofFile [] (Text.pieces '/' text)

/-- Segments without the empty ones at their start, except for the last of all. -/
def collapse : List Text → List Text
  | [] :: next :: rest => collapse (next :: rest)
  | list => list

def shown (segments : List Text) : Text := segments.flatMap fun segment => '/' :: segment

end OrderReplay.Http.Path
