import OrderReplay.CommandLine.Option
import OrderReplay.Text.Terminal

/-! Command lines that cannot be used, and what is said about them. -/
namespace OrderReplay.CommandLine

inductive CountFlaw where
  | empty
  | notDigits
  | tooLarge
  deriving DecidableEq, Repr

def CountFlaw.message : CountFlaw → Text
  | .empty => "cannot parse integer from empty string".toList
  | .notDigits => "invalid digit found in string".toList
  | .tooLarge => "number too large to fit in target type".toList

def countLimit : Nat := Nat.pow 2 64

/-- Digits read from left to right; the first of them that is none, or that makes the
number too large, decides. -/
def countFrom (total : Nat) : Text → Except CountFlaw Nat
  | [] => .ok total
  | c :: rest =>
    match Text.digit? c with
    | none => .error .notDigits
    | some digit =>
      if total * 10 + digit < countLimit then countFrom (total * 10 + digit) rest
      else .error .tooLarge

def count (text : Text) : Except CountFlaw Nat :=
  match text with
  | [] => .error .empty
  | ['+'] | ['-'] => .error .notDigits
  | '+' :: rest => countFrom 0 rest
  | _ => countFrom 0 text

inductive Notice where
  | help
  | version
  deriving DecidableEq, Repr

def Notice.flag : Notice → Text
  | .help => "help".toList
  | .version => "version".toList

def Notice.ofFlag? (name : Text) : Option Notice := [help, version].find? fun n => n.flag == name

def Notice.ofLetter? : Char → Option Notice
  | 'h' => some .help
  | 'V' => some .version
  | _ => none

inductive UsageError where
  /-- A word that is no flag, or a value that no flag asked for. -/
  | unexpected (word : Text)
  | valueMissing (option : Opt)
  | valueInvalid (option : Opt) (value : Text) (flaw : CountFlaw)
  | repeated (option : Opt)
  /-- A value for a flag that takes none. -/
  | valueUnwanted (flag : Notice) (value : Text)
  /-- Options that are given neither by flag nor by variable. -/
  | missing (options : List Opt)
  deriving DecidableEq, Repr

namespace UsageError

def quoted (text : Text) : Text := '\'' :: text ++ ['\'']

/-- A word of the command line in quotes, without what would steer a terminal. -/
def quotedWord (word : Text) : Text := quoted (Text.Terminal.plain word)

/-- The message, of which only the first line stands for all of these. -/
def message : UsageError → Text
  | .unexpected word => "unexpected argument ".toList ++ quotedWord word ++ " found".toList
  | .valueMissing option =>
    "a value is required for ".toList ++ quoted option.shown ++ " but none was supplied".toList
  | .valueInvalid option value flaw =>
    "invalid value ".toList ++ quotedWord value ++ " for ".toList ++ quoted option.shown ++
      ": ".toList ++ flaw.message
  | .repeated option =>
    "the argument ".toList ++ quoted option.shown ++ " cannot be used multiple times".toList
  | .valueUnwanted flag value =>
    "unexpected value ".toList ++ quotedWord value ++ " for ".toList ++
      quoted ('-' :: '-' :: flag.flag) ++ " found; no more were expected".toList
  | .missing options =>
    "the following required arguments were not provided:".toList ++
      options.flatMap fun o => "\n  ".toList ++ o.shown

end UsageError
end OrderReplay.CommandLine
