import OrderReplay.CommandLine.Usage

/-! Reading a command line. Words are taken from left to right; a flag wins over its
variable, which is then not looked at. -/
namespace OrderReplay.CommandLine

inductive Request where
  | run (options : Options)
  | notice (notice : Notice)
  deriving DecidableEq, Repr

inductive Stop where
  | usage (error : UsageError)
  | notice (notice : Notice)
  deriving DecidableEq, Repr

/-- The flag that was read last and is not settled yet. -/
inductive Pending where
  | nothing
  | awaiting (option : Opt)
  | holding (option : Opt) (value : Text)
  deriving DecidableEq, Repr

/-- Words read so far: values by option, and whether two dashes have ended the flags. -/
structure Words where
  given : List (Opt × Text)
  pending : Pending
  flagsEnded : Bool
  deriving DecidableEq, Repr

namespace Words

def start : Words := ⟨[], .nothing, false⟩

def check (option : Opt) (value : Text) : Except UsageError Unit :=
  match option with
  | .orderLogs => if value.isEmpty then .error (.valueMissing option) else .ok ()
  | .timeout =>
    match count value with
    | .ok _ => .ok ()
    | .error flaw => .error (.valueInvalid option value flaw)
  | _ => .ok ()

/-- Gives an option its value. A repetition is refused before the value is looked at. -/
def give (given : List (Opt × Text)) (option : Opt) (value : Text) :
    Except UsageError (List (Opt × Text)) :=
  if (given.lookup option).isSome then .error (.repeated option)
  else (check option value).map fun _ => given ++ [(option, value)]

def settle (w : Words) : Except UsageError Words :=
  match w.pending with
  | .nothing => .ok w
  | .awaiting option => .error (.valueMissing option)
  | .holding option value =>
    (give w.given option value).map fun given => { w with given, pending := .nothing }

def orStop : Except UsageError α → Except Stop α
  | .ok a => .ok a
  | .error e => .error (.usage e)

def long (w : Words) (name : Text) (value : Option Text) : Except Stop Words :=
  match Opt.ofFlag? name with
  | some option => do
    let w ← orStop w.settle
    match value with
    | some value => do
      let given ← orStop (give w.given option value)
      .ok { w with given }
    | none => .ok { w with pending := .awaiting option }
  | none =>
    match Notice.ofFlag? name, value with
    | some notice, some value => .error (.usage (.valueUnwanted notice value))
    | some notice, none => do
      let _ ← orStop w.settle
      .error (.notice notice)
    | none, _ => .error (.usage (.unexpected ('-' :: '-' :: name)))

/-- A word of one dash and letters. Both letters that are known stop the reading, so
only the first one counts. -/
def short (w : Words) (letter : Char) : Except Stop Words :=
  match Notice.ofLetter? letter with
  | some notice => do
    let _ ← orStop w.settle
    .error (.notice notice)
  | none => .error (.usage (.unexpected ['-', letter]))

/-- A word that is no flag: the value that the flag before it awaits. -/
def plain (w : Words) (word : Text) : Except Stop Words :=
  match w.pending with
  | .awaiting option => .ok { w with pending := .holding option word }
  | _ => .error (.usage (.unexpected word))

def step (w : Words) (word : Text) : Except Stop Words :=
  if w.flagsEnded then .error (.usage (.unexpected word))
  else match word with
    | ['-', '-'] => .ok { w with flagsEnded := true }
    | '-' :: '-' :: rest =>
      let (name, value) := Text.cut '=' rest
      long w name value
    | '-' :: letter :: _ => short w letter
    | _ => plain w word

def run : Words → List Text → Except Stop Words
  | w, [] => .ok w
  | w, word :: rest => do run (← step w word) rest

end Words

abbrev Environment := List (Text × Text)

def fromEnvironment (env : Environment) (given : List (Opt × Text)) :
    List Opt → Except UsageError (List (Opt × Text))
  | [] => .ok given
  | option :: rest =>
    match given.lookup option, env.lookup option.envName with
    | none, some value => do fromEnvironment env (← Words.give given option value) rest
    | _, _ => fromEnvironment env given rest

def stillMissing (given : List (Opt × Text)) : List Opt :=
  Opt.all.filter fun o => o ≠ .timeout && (given.lookup o).isNone

def timeoutOf (given : List (Opt × Text)) : Nat :=
  match given.lookup .timeout with
  | none => defaultTimeout
  | some value =>
    match count value with
    | .ok seconds => seconds
    | .error _ => defaultTimeout

def optionsOf (given : List (Opt × Text)) : Options :=
  let value (o : Opt) : Text := (given.lookup o).getD []
  ⟨value .orderLogs, value .host, value .tenant, value .username, value .password,
    timeoutOf given⟩

def options (words : Words) (env : Environment) : Except UsageError Options := do
  let words ← words.settle
  let given ← fromEnvironment env words.given Opt.all
  match stillMissing given with
  | [] => .ok (optionsOf given)
  | missing => .error (.missing missing)

def parse (args : List Text) (env : Environment) : Except UsageError Request :=
  match Words.run .start args with
  | .error (.usage error) => .error error
  | .error (.notice notice) => .ok (.notice notice)
  | .ok words => (options words env).map .run

end OrderReplay.CommandLine
