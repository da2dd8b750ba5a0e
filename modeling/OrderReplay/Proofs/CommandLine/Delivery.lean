import Mathlib.Data.List.Nodup
import OrderReplay.Program
import OrderReplay.Proofs.Json.Digits
import OrderReplay.Proofs.Text.Pieces

/-! Ways in which options are delivered: by a flag with its value in the next word, by a flag with
its value behind an equals sign, or by a variable, which counts where there is no flag and is not
looked at where there is one. Which way each option takes, and in which order the flags stand,
makes no difference to what is read. -/
namespace OrderReplay.CommandLine

open Json (Digits ofDigits)

inductive Form where
  | apart
  | joined
  deriving DecidableEq, Repr

structure Flag where
  option : Opt
  value : Text
  form : Form
  deriving DecidableEq, Repr

namespace Flag

def words (f : Flag) : List Text :=
  match f.form with
  | .apart => ['-' :: '-' :: f.option.flag, f.value]
  | .joined => ['-' :: '-' :: (f.option.flag ++ '=' :: f.value)]

/-- A value in a word of its own must not look like a flag. A dash alone does not. -/
def Legible (f : Flag) : Prop := f.form = .apart → f.value.head? = some '-' → f.value = ['-']

instance (f : Flag) : Decidable f.Legible :=
  inferInstanceAs (Decidable (f.form = .apart → f.value.head? = some '-' → f.value = ['-']))

def pair (f : Flag) : Opt × Text := (f.option, f.value)

end Flag

def lineOf (flags : List Flag) : List Text := flags.flatMap Flag.words

def delivered? (flags : List Flag) (env : Environment) (option : Opt) : Option Text :=
  ((flags.map Flag.pair).lookup option).or (env.lookup option.envName)

inductive Seconds : Option Text → Nat → Prop where
  | omitted : Seconds none defaultTimeout
  | decimal {text : Text} (present : text ≠ []) (digits : Digits text)
      (bounded : ofDigits text < Nat.pow 2 64) : Seconds (some text) (ofDigits text)

/-- Flags, each given once, and variables that together deliver options. Of a variable nothing is
asked where its flag is given. -/
structure Delivers (flags : List Flag) (env : Environment) (options : Options) : Prop where
  once : (flags.map Flag.option).Nodup
  legible : ∀ f ∈ flags, f.Legible
  orderLogs : delivered? flags env .orderLogs = some options.orderLogs
  some_path : options.orderLogs ≠ []
  host : delivered? flags env .host = some options.host
  tenant : delivered? flags env .tenant = some options.tenant
  username : delivered? flags env .username = some options.username
  password : delivered? flags env .password = some options.password
  timeout : Seconds (delivered? flags env .timeout) options.timeout

/-! ### Counts in decimal digits -/

theorem countFrom_of_digits {text : Text} (digits : Digits text) (total : Nat)
    (bounded : total * 10 ^ text.length + ofDigits text < countLimit) :
    countFrom total text = .ok (total * 10 ^ text.length + ofDigits text) := by
  induction text generalizing total with
  | nil => simp [countFrom, ofDigits]
  | cons c rest ih =>
    obtain ⟨d, digit⟩ := Option.isSome_iff_exists.1 (digits c List.mem_cons_self)
    rw [Json.shift_cons digit] at bounded ⊢
    have least : total * 10 + d < countLimit := by
      have power : 0 < 10 ^ rest.length := Nat.pow_pos (by decide)
      have grows := Nat.le_mul_of_pos_right (total * 10 + d) power
      omega
    simp only [countFrom, digit, if_pos least]
    exact ih (fun c member => digits c (List.mem_cons_of_mem _ member)) _ bounded

theorem count_of_digits {text : Text} (present : text ≠ []) (digits : Digits text)
    (bounded : ofDigits text < Nat.pow 2 64) : count text = .ok (ofDigits text) := by
  have read : countFrom 0 text = .ok (ofDigits text) := by
    have limit : 0 * 10 ^ text.length + ofDigits text < countLimit := by
      rw [Nat.zero_mul, Nat.zero_add]
      exact bounded
    rw [countFrom_of_digits digits 0 limit, Nat.zero_mul, Nat.zero_add]
  have sign {c : Char} {rest : Text} (shape : text = c :: rest) : (Text.digit? c).isSome = true :=
    digits c (shape ▸ List.mem_cons_self)
  unfold count
  split
  next => exact absurd rfl present
  next => exact absurd (sign rfl) (by decide)
  next => exact absurd (sign rfl) (by decide)
  next => exact absurd (sign rfl) (by decide)
  next => exact read

/-! ### Flags in any order -/

namespace Words

theorem run_append (w : Words) (one other : List Text) :
    run w (one ++ other) = run w one >>= fun w => run w other := by
  induction one generalizing w with
  | nil => rfl
  | cons word rest ih =>
    rw [List.cons_append, run, run]
    cases step w word with
    | error stop => rfl
    | ok next => exact ih next

theorem flagsEnded_of_settle {w : Words} {given : List (Opt × Text)}
    (settled : w.settle = .ok ⟨given, .nothing, false⟩) : w.flagsEnded = false := by
  unfold settle at settled
  split at settled
  next => rw [Except.ok.inj settled]
  next => cases settled
  next option value _ =>
    cases gave : give w.given option value with
    | error => rw [gave] at settled; cases settled
    | ok => rw [gave] at settled; exact congrArg Words.flagsEnded (Except.ok.inj settled)

theorem give_fresh {given : List (Opt × Text)} {option : Opt} {value : Text}
    (fresh : given.lookup option = none) (valid : check option value = .ok ()) :
    give given option value = .ok (given ++ [(option, value)]) := by
  simp [give, fresh, valid, Except.map]

theorem step_long {w : Words} (unended : w.flagsEnded = false) (option : Opt) (behind : Text) :
    step w ('-' :: '-' :: (option.flag ++ behind)) =
      long w (Text.cut '=' (option.flag ++ behind)).1 (Text.cut '=' (option.flag ++ behind)).2 := by
  simp only [step, unended]
  cases option <;> rfl

theorem cut_flag (option : Opt) (behind : Text) : Text.cut '=' (option.flag ++ behind) =
    (option.flag ++ (Text.cut '=' behind).1, (Text.cut '=' behind).2) :=
  Text.cut_append (by cases option <;> decide) behind

variable {w : Words} {given : List (Opt × Text)} {option : Opt} {value : Text}

theorem step_apart (settled : w.settle = .ok ⟨given, .nothing, false⟩) (option : Opt) :
    step w ('-' :: '-' :: option.flag) = .ok ⟨given, .awaiting option, false⟩ := by
  have named := step_long (flagsEnded_of_settle settled) option []
  rw [cut_flag, Text.cut_nil, List.append_nil] at named
  rw [named]
  simp only [long, Opt.ofFlag?_flag, settled, orStop, bind, Except.bind]

theorem step_joined (settled : w.settle = .ok ⟨given, .nothing, false⟩)
    (fresh : given.lookup option = none) (valid : check option value = .ok ()) :
    step w ('-' :: '-' :: (option.flag ++ '=' :: value)) =
      .ok ⟨given ++ [(option, value)], .nothing, false⟩ := by
  rw [step_long (flagsEnded_of_settle settled), cut_flag, Text.cut_mark, List.append_nil]
  simp only [long, Opt.ofFlag?_flag, settled, orStop, bind, Except.bind, give_fresh fresh valid]

theorem step_value (legible : value.head? = some '-' → value = ['-']) :
    step ⟨given, .awaiting option, false⟩ value = .ok ⟨given, .holding option value, false⟩ := by
  have plainly : step ⟨given, .awaiting option, false⟩ value =
      plain ⟨given, .awaiting option, false⟩ value := by
    unfold step
    rw [if_neg Bool.false_ne_true]
    split
    next => exact absurd (legible rfl) (by decide)
    next => exact absurd (legible rfl) (by simp)
    next => exact absurd (legible rfl) (by simp)
    next => rfl
  rw [plainly, plain]

/-- A flag with its value is read, whatever was read before it, and leaves no flag unsettled
behind it. -/
theorem run_flag {f : Flag} (settled : w.settle = .ok ⟨given, .nothing, false⟩)
    (fresh : given.lookup f.option = none) (valid : check f.option f.value = .ok ())
    (legible : f.Legible) :
    ∃ next, run w f.words = .ok next ∧ next.settle = .ok ⟨given ++ [f.pair], .nothing, false⟩ := by
  obtain ⟨option, value, form⟩ := f
  cases form with
  | apart =>
    refine ⟨⟨given, .holding option value, false⟩, ?_, ?_⟩
    · simp only [Flag.words, run, step_apart settled, bind, Except.bind]
      rw [step_value (legible rfl)]
    · simp only [settle, give_fresh fresh valid]
      rfl
  | joined =>
    refine ⟨⟨given ++ [(option, value)], .nothing, false⟩, ?_, rfl⟩
    simp only [Flag.words, run, step_joined settled fresh valid, bind, Except.bind]

/-- Flags that come once each are all read, in whatever order they stand. -/
theorem run_flags {flags : List Flag} (settled : w.settle = .ok ⟨given, .nothing, false⟩)
    (once : (flags.map Flag.option).Nodup) (fresh : ∀ f ∈ flags, given.lookup f.option = none)
    (valid : ∀ f ∈ flags, check f.option f.value = .ok ()) (legible : ∀ f ∈ flags, f.Legible) :
    ∃ next, run w (lineOf flags) = .ok next ∧
      next.settle = .ok ⟨given ++ flags.map Flag.pair, .nothing, false⟩ := by
  induction flags generalizing w given with
  | nil => exact ⟨w, rfl, by rw [List.map_nil, List.append_nil, settled]⟩
  | cons f rest ih =>
    rw [List.forall_mem_cons] at fresh valid legible
    obtain ⟨other, once⟩ := List.nodup_cons.1 once
    obtain ⟨between, read, settled⟩ := run_flag settled fresh.1 valid.1 legible.1
    have still : ∀ g ∈ rest, (given ++ [f.pair]).lookup g.option = none := by
      intro g member
      have differs : g.option ≠ f.option := fun same =>
        other (same ▸ List.mem_map_of_mem member)
      rw [List.lookup_append, fresh.2 g member]
      simp [Flag.pair, List.lookup_cons, beq_false_of_ne differs]
    obtain ⟨last, more, ended⟩ := ih settled once still valid.2 legible.2
    refine ⟨last, ?_, ?_⟩
    · rw [lineOf, List.flatMap_cons, run_append, read]
      exact more
    · rw [ended, List.append_assoc, List.map_cons]
      rfl

end Words

/-! ### Variables -/

theorem fromEnvironment_cons {env : Environment} {option : Opt} {given : List (Opt × Text)}
    (valid : ∀ value, given.lookup option = none → env.lookup option.envName = some value →
      Words.check option value = .ok ()) (rest : List Opt) :
    ∃ next, fromEnvironment env given (option :: rest) = fromEnvironment env next rest ∧
      ∀ other, next.lookup other = (given.lookup other).or
        (if other = option then env.lookup option.envName else none) := by
  cases here : given.lookup option with
  | some value =>
    refine ⟨given, by simp [fromEnvironment, here], fun other => ?_⟩
    by_cases same : other = option
    · rw [same, here, Option.some_or]
    · rw [if_neg same, Option.or_none]
  | none =>
    cases set : env.lookup option.envName with
    | none => exact ⟨given, by simp [fromEnvironment, here, set], by simp⟩
    | some value =>
      refine ⟨given ++ [(option, value)], ?_, fun other => ?_⟩
      · simp [fromEnvironment, here, set, Words.give_fresh here (valid value here set), bind,
          Except.bind]
      · rw [List.lookup_append]
        by_cases same : other = option <;> simp [List.lookup_cons, same, beq_false_of_ne]

/-- Variables give their options values where flags have not. -/
theorem fromEnvironment_ok (env : Environment) {options : List Opt} {given : List (Opt × Text)}
    (once : options.Nodup) (valid : ∀ option ∈ options, ∀ value, given.lookup option = none →
      env.lookup option.envName = some value → Words.check option value = .ok ()) :
    ∃ all, fromEnvironment env given options = .ok all ∧ ∀ option, all.lookup option =
      (given.lookup option).or (if option ∈ options then env.lookup option.envName else none) := by
  induction options generalizing given with
  | nil => exact ⟨given, rfl, by simp⟩
  | cons option rest ih =>
    obtain ⟨last, once⟩ := List.nodup_cons.1 once
    rw [List.forall_mem_cons] at valid
    obtain ⟨next, step, found⟩ := fromEnvironment_cons valid.1 rest
    have open_ {other : Opt} (unset : next.lookup other = none) : given.lookup other = none := by
      rw [found, Option.or_eq_none_iff] at unset
      exact unset.1
    obtain ⟨all, read, whole⟩ := ih once fun other member value unset =>
      valid.2 other member value (open_ unset)
    refine ⟨all, step.trans read, fun other => ?_⟩
    rw [whole, found, Option.or_assoc]
    congr 1
    by_cases same : other = option
    · simp [same, last]
    · simp [same]

/-! ### What is read -/

theorem lookup_flag {flags : List Flag} (once : (flags.map Flag.option).Nodup) {f : Flag}
    (member : f ∈ flags) : (flags.map Flag.pair).lookup f.option = some f.value := by
  induction flags with
  | nil => cases member
  | cons g rest ih =>
    obtain ⟨other, once⟩ := List.nodup_cons.1 once
    rcases List.mem_cons.1 member with rfl | later
    · simp [Flag.pair]
    · have differs : f.option ≠ g.option := fun same => other (same ▸ List.mem_map_of_mem later)
      rw [List.map_cons, Flag.pair, List.lookup_cons, beq_false_of_ne differs]
      exact ih once later

theorem Seconds.count {text : Text} {seconds : Nat} (given : Seconds (some text) seconds) :
    CommandLine.count text = .ok seconds := by
  cases given with
  | decimal present digits bounded => exact count_of_digits present digits bounded

theorem Seconds.default {seconds : Nat} (given : Seconds none seconds) :
    seconds = defaultTimeout := by
  cases given
  rfl

namespace Delivers

variable {flags : List Flag} {env : Environment} {options : Options}

theorem check (delivers : Delivers flags env options) {option : Opt} {value : Text}
    (given : delivered? flags env option = some value) : Words.check option value = .ok () := by
  cases option with
  | orderLogs =>
    obtain rfl := Option.some.inj (given.symm.trans delivers.orderLogs)
    simp [Words.check, delivers.some_path]
  | timeout =>
    have seconds := delivers.timeout
    rw [given] at seconds
    simp only [Words.check, seconds.count]
  | host | tenant | username | password => rfl

theorem timeoutOf (delivers : Delivers flags env options) {all : List (Opt × Text)}
    (found : all.lookup .timeout = delivered? flags env .timeout) :
    CommandLine.timeoutOf all = options.timeout := by
  have seconds := delivers.timeout
  unfold CommandLine.timeoutOf
  rw [found]
  cases given : delivered? flags env .timeout with
  | none =>
    rw [given] at seconds
    exact seconds.default.symm
  | some text =>
    rw [given] at seconds
    simp only [seconds.count]

theorem parse (delivers : Delivers flags env options) :
    CommandLine.parse (lineOf flags) env = .ok (.run options) := by
  have flagged {f : Flag} (member : f ∈ flags) :
      delivered? flags env f.option = some f.value := by
    rw [delivered?, lookup_flag delivers.once member, Option.some_or]
  have start : Words.start.settle = .ok ⟨[], .nothing, false⟩ := rfl
  obtain ⟨words, read, settled⟩ := Words.run_flags start delivers.once (fun _ _ => rfl)
    (fun f member => delivers.check (flagged member)) delivers.legible
  rw [List.nil_append] at settled
  have every : Opt.all.Nodup := by decide
  obtain ⟨all, taken, found⟩ := fromEnvironment_ok env every
    fun option _ value unset set => delivers.check (by rw [delivered?, unset, set]; rfl)
  have whole (option : Opt) : all.lookup option = delivered? flags env option := by
    rw [found, if_pos option.mem_all]
    rfl
  have complete : stillMissing all = [] := by
    simp [stillMissing, Opt.all, whole, delivers.orderLogs, delivers.host, delivers.tenant,
      delivers.username, delivers.password]
  have same : optionsOf all = options := by
    simp only [optionsOf, whole, delivers.orderLogs, delivers.host, delivers.tenant,
      delivers.username, delivers.password, delivers.timeoutOf (whole .timeout), Option.getD_some]
  simp only [CommandLine.parse, read, CommandLine.options, settled, bind, Except.bind, taken,
    complete, same, Except.map]

end Delivers

def settings? (args : List Text) (env : Environment) : Option (Except Settings.Problem Settings) :=
  match parse args env with
  | .ok (.run options) => some (Settings.ofOptions options)
  | _ => none

/-- However options are delivered, by flags in either form and in any order, by variables, or by
flags above whatever variables there are, exactly these options are read, and a timeout that is
left out is the default one. Two deliveries of the same options therefore give the same settings,
and the same runs where events are shown alike. -/
theorem delivery_immaterial {flags : List Flag} {env : Environment} {options : Options}
    (delivers : Delivers flags env options) :
    parse (lineOf flags) env = .ok (.run options) ∧
    settings? (lineOf flags) env = some (Settings.ofOptions options) ∧
    ∀ flags' env', Delivers flags' env' options →
      parse (lineOf flags') env' = parse (lineOf flags) env ∧
      settings? (lineOf flags') env' = settings? (lineOf flags) env ∧
      (env'.lookup Program.filterVariable = env.lookup Program.filterVariable →
        ∀ files network, Program.run (lineOf flags') env' files network =
          Program.run (lineOf flags) env files network) := by
  have read := delivers.parse
  refine ⟨read, by rw [settings?, read], fun flags' env' other => ?_⟩
  have same : parse (lineOf flags') env' = parse (lineOf flags) env := other.parse.trans read.symm
  refine ⟨same, by rw [settings?, settings?, same], fun filter files network => ?_⟩
  simp only [Program.run, filter, same]

/-- Values that look like flags and a path that is a dash, some by flags above variables of which
two could not be used; and the same options by variables alone. -/
theorem delivery_immaterial_flags_above_variables :
    let options : Options := ⟨['-'], ['-', 'h'], "a=b".toList, "--version".toList,
      "--okapi-host=x y".toList, 70⟩
    let flags : List Flag := [⟨.password, "--okapi-host=x y".toList, .joined⟩,
      ⟨.timeout, "0070".toList, .apart⟩, ⟨.orderLogs, ['-'], .apart⟩,
      ⟨.tenant, "a=b".toList, .apart⟩]
    let env : Environment := [(Opt.orderLogs.envName, []), (Opt.timeout.envName, ['x']),
      (Opt.host.envName, ['-', 'h']), (Opt.username.envName, "--version".toList)]
    let unflagged : Environment := [(Opt.orderLogs.envName, ['-']),
      (Opt.timeout.envName, ['7', '0']), (Opt.host.envName, ['-', 'h']),
      (Opt.username.envName, "--version".toList), (Opt.tenant.envName, "a=b".toList),
      (Opt.password.envName, "--okapi-host=x y".toList)]
    Delivers flags env options ∧ Delivers [] unflagged options ∧
      parse (lineOf flags) env = .ok (.run options) ∧
      parse [] unflagged = parse (lineOf flags) env := by
  intro options flags env unflagged
  have seconds : Seconds (some "0070".toList) 70 :=
    .decimal (by decide) (by simp [Digits, Text.digit?]) (by decide)
  have seconds' : Seconds (some "70".toList) 70 :=
    .decimal (by decide) (by simp [Digits, Text.digit?]) (by decide)
  have first : Delivers flags env options :=
    ⟨by decide, by decide, by decide, by decide, by decide, by decide, by decide, by decide,
      seconds⟩
  have second : Delivers [] unflagged options :=
    ⟨by decide, by decide, by decide, by decide, by decide, by decide, by decide, by decide,
      seconds'⟩
  obtain ⟨read, -, others⟩ := delivery_immaterial first
  exact ⟨first, second, read, (others [] unflagged second).1⟩

end OrderReplay.CommandLine
