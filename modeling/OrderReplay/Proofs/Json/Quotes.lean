import OrderReplay.Proofs.Json.Step

/-! Where quotes can stand in a text that is read to its end. A quote opens a string, ends
one, or is escaped within one; behind the end of a string only a separator can follow, so
two quotes in a row are never followed by a letter. -/
namespace OrderReplay.Json

namespace Quotation

/-- A quote among the digits of an escape. The escape is judged only later, but it is lost. -/
def Spoiled (scan : Scan) : Prop := ∃ high seen, scan.place = .digits high seen ∧ '"' ∈ seen

theorem unit?_eq_none_of_mem {seen : Text} (h : '"' ∈ seen) : unit? seen = none := by
  have digit : Text.hexDigit? '"' = none := by decide
  unfold unit?
  split
  next d c b a =>
    simp only [List.mem_cons, List.not_mem_nil, or_false] at h
    rcases h with rfl | rfl | rfl | rfl
    · cases Text.hexDigit? a <;> cases Text.hexDigit? b <;> cases Text.hexDigit? c <;> simp [digit]
    · cases Text.hexDigit? a <;> cases Text.hexDigit? b <;> simp [digit]
    · cases Text.hexDigit? a <;> simp [digit]
    · simp [digit]
  next => rfl

theorem digitStep_of_mem {read seen : Text} {high : Option Nat} {c : Char} {next : Scan}
    (member : '"' ∈ c :: seen) (h : digitStep read high seen c = .ok next) : Spoiled next := by
  simp only [digitStep, unit?_eq_none_of_mem member] at h
  split at h
  · obtain rfl := Except.ok.inj h
    exact ⟨high, c :: seen, rfl, member⟩
  · cases h

theorem map_more {x : Except Flaw Scan} {p : Progress} (h : x.map .more = .ok p) :
    ∃ next, x = .ok next ∧ p = .more next := by
  cases x with
  | ok next => exact ⟨next, rfl, (Except.ok.inj h).symm⟩
  | error => cases h

/-- A spoiled escape stays so until the text is refused. -/
theorem step_spoiled {scan : Scan} {c : Char} {p : Progress} (spoiled : Spoiled scan)
    (h : step scan c = .ok p) : ∃ next, p = .more next ∧ Spoiled next := by
  obtain ⟨high, seen, place, member⟩ := spoiled
  simp only [step, place] at h
  obtain ⟨next, read, rfl⟩ := map_more h
  exact ⟨next, rfl, digitStep_of_mem (List.mem_cons_of_mem c member) read⟩

/-- A quote ends the string, or it is escaped, or it spoils an escape. -/
theorem step_quote {scan : Scan} {p : Progress} (h : step scan '"' = .ok p) :
    (scan.place = .plain ∧ ∃ text, p = .closed text) ∨
    ∃ next, p = .more next ∧ (next.place = .plain ∨ Spoiled next) := by
  obtain ⟨read, place⟩ := scan
  cases place with
  | plain => exact .inl ⟨rfl, _, (Except.ok.inj h).symm⟩
  | escape => exact .inr ⟨_, (Except.ok.inj h).symm, .inl rfl⟩
  | digits high seen =>
    obtain ⟨next, read, rfl⟩ := map_more h
    exact .inr ⟨next, rfl, .inr (digitStep_of_mem (List.mem_cons_self ..) read)⟩
  | pair high => simp [step] at h
  | pairEscape high => simp [step] at h

theorem step_closed {scan : Scan} {c : Char} {text : Text} (h : step scan c = .ok (.closed text)) :
    c = '"' ∧ scan.place = .plain := by
  obtain ⟨read, place⟩ := scan
  cases place with
  | plain =>
    simp only [step] at h
    split at h
    next is => exact ⟨is, rfl⟩
    next => split at h <;> try split at h
            all_goals simp at h
  | escape =>
    simp only [step] at h
    split at h
    · simp at h
    · split at h <;> simp at h
  | digits high seen =>
    obtain ⟨next, _, same⟩ := map_more h
    cases same
  | pair high => simp only [step] at h; split at h <;> simp at h
  | pairEscape high => simp only [step] at h; split at h <;> simp at h

end Quotation

namespace Reader

/-- Within a string, of which so much has been read. -/
inductive Within : Reader → Quotation.Scan → Prop where
  | string {stack scan} : Within ⟨stack, .string scan⟩ scan
  | key {stack members scan} : Within ⟨stack, .keyString members scan⟩ scan

inductive Behind : Reader → Prop where
  | value {r} (settled : Settled r) : Behind r
  | key {stack members key} : Behind ⟨stack, .colon members key⟩

def isSeparator (c : Char) : Bool :=
  isSpace c || c == ',' || c == ':' || c == ']' || c == '\x7d'

theorem not_behind_of_expects {r : Reader} {stack : List Frame} (expects : Expects r stack) :
    ¬ Behind r := by
  intro behind
  cases expects <;> cases behind with
  | value settled => cases settled

theorem not_behind_of_keyDue {stack : List Frame} {mode : Mode} {members : Members}
    (due : KeyDue mode members) : ¬ Behind ⟨stack, mode⟩ := by
  intro behind
  cases due <;> cases behind with
  | value settled => cases settled

theorem separator_of_behind {root : Root} {r next : Reader} {c : Char} (behind : Behind r)
    (h : Step root r c next) : isSeparator c = true := by
  cases h with
  | blank _ space => simp [isSeparator, space]
  | listEmpty | listComma | listEnd | objectEmpty | objectComma | objectEnd | colon => rfl
  | brace expects | bracket expects | quote expects | letter expects | digit expects =>
    exact absurd behind (not_behind_of_expects expects)
  | keyQuote due => exact absurd behind (not_behind_of_keyDue due)
  | keyMore | keyEnd | stringMore | stringEnd | literalMore | literalEnd | numberMore
  | numberEnd =>
    cases behind with
    | value settled => cases settled

theorem step_behind_quote (root : Root) {r : Reader} (behind : Behind r) :
    step root r '"' = .error .malformed := by
  have space : isSpace '"' = false := by decide
  cases behind with
  | value settled => cases settled <;> simp [step, stepBehind, space]
  | key => simp [step, space]

theorem not_within_of_expects {r : Reader} {stack : List Frame} {scan : Quotation.Scan}
    (expects : Expects r stack) : ¬ Within r scan := by
  intro within
  cases expects <;> cases within

theorem not_within_of_keyDue {stack : List Frame} {mode : Mode} {members : Members}
    {scan : Quotation.Scan} (due : KeyDue mode members) : ¬ Within ⟨stack, mode⟩ scan := by
  intro within
  cases due <;> cases within

/-- Within a string a character is part of it or ends it. -/
theorem step_within {root : Root} {r next : Reader} {scan : Quotation.Scan} {c : Char}
    (within : Within r scan) (h : Step root r c next) :
    (∃ more, Quotation.step scan c = .ok (.more more) ∧ Within next more) ∨
    (∃ text, Quotation.step scan c = .ok (.closed text) ∧ Behind next) := by
  cases h with
  | stringMore read =>
    cases within
    exact .inl ⟨_, read, .string⟩
  | keyMore read =>
    cases within
    exact .inl ⟨_, read, .key⟩
  | stringEnd read settled =>
    cases within
    exact .inr ⟨_, read, .value (settled_of_settle settled)⟩
  | keyEnd read =>
    cases within
    exact .inr ⟨_, read, .key⟩
  | brace expects | bracket expects | quote expects | letter expects | digit expects =>
    exact absurd within (not_within_of_expects expects)
  | keyQuote due => exact absurd within (not_within_of_keyDue due)
  | blank idle => cases within <;> cases idle
  | listEmpty | listComma | listEnd | objectEmpty | objectComma | objectEnd | colon
  | literalMore | literalEnd | numberMore | numberEnd => cases within

/-- No letter that is still due is a quote. -/
def Clean (r : Reader) : Prop := ∀ due value, r.mode = .literal due value → '"' ∉ due

theorem clean_of_settled {r : Reader} (settled : Settled r) : Clean r := by
  intro due value mode
  cases settled <;> cases mode

theorem clean_step {root : Root} {r next : Reader} {c : Char} (clean : Clean r)
    (h : Step root r c next) : Clean next := by
  induction h with
  | blank => exact clean
  | letter expects name =>
    intro due value mode
    cases mode
    simp only [literals, List.mem_cons, Prod.mk.injEq, List.cons.injEq, List.not_mem_nil,
      or_false] at name
    rcases name with ⟨⟨_, rfl⟩, _⟩ | ⟨⟨_, rfl⟩, _⟩ | ⟨⟨_, rfl⟩, _⟩ <;> decide
  | literalMore =>
    intro due value mode
    cases mode
    exact fun member => clean _ _ rfl (List.mem_cons_of_mem _ member)
  | listEmpty settled | listEnd settled | objectEmpty settled | objectEnd settled
  | stringEnd _ settled | literalEnd settled => exact clean_of_settled (settled_of_settle settled)
  | numberEnd _ _ settled _ ih => exact ih (clean_of_settled (settled_of_settle settled))
  | brace | bracket | quote | digit | listComma | objectComma | keyQuote | keyMore | keyEnd
  | colon | stringMore | numberMore =>
    intro due value mode
    cases mode

theorem clean_run {root : Root} {r : Reader} {text : Text} (h : run root .start text = .ok r) :
    Clean r :=
  run_induction Clean (fun _ _ mode => by cases mode) (fun _ _ _ => clean_step) h

def Doomed (r : Reader) : Prop := ∃ scan, Within r scan ∧ Quotation.Spoiled scan

theorem doomed_step {root : Root} {r next : Reader} {c : Char} (doomed : Doomed r)
    (h : Step root r c next) : Doomed next := by
  obtain ⟨scan, within, spoiled⟩ := doomed
  rcases step_within within h with ⟨more, read, inside⟩ | ⟨text, read, _⟩
  · obtain ⟨left, same, still⟩ := Quotation.step_spoiled spoiled read
    cases same
    exact ⟨more, inside, still⟩
  · obtain ⟨left, same, _⟩ := Quotation.step_spoiled spoiled read
    cases same

theorem within_run {root : Root} {r next : Reader} {scan : Quotation.Scan} {text : Text}
    (bare : '"' ∉ text) (within : Within r scan) (h : run root r text = .ok next) :
    ∃ more, Within next more := by
  induction text generalizing r scan with
  | nil =>
    obtain rfl := Except.ok.inj h
    exact ⟨scan, within⟩
  | cons c rest ih =>
    simp only [List.mem_cons, not_or] at bare
    obtain ⟨mid, moved, h⟩ := run_cons_ok h
    rcases step_within within (step_ok moved) with ⟨more, _, inside⟩ | ⟨text, read, _⟩
    · exact ih bare.2 inside h
    · exact absurd (Quotation.step_closed read).1.symm bare.1

theorem finish_within {root : Root} {r : Reader} {scan : Quotation.Scan} (within : Within r scan) :
    finish root r = .error .incomplete := by
  cases within <;> rfl

/-- Behind a quote a string has ended, or is open and bare, or cannot end any more. -/
theorem step_quote {root : Root} {r next : Reader} (clean : Clean r)
    (h : Step root r '"' next) :
    Behind next ∨ (∃ scan, Within next scan ∧ scan.place = .plain) ∨ Doomed next := by
  generalize is : '"' = c at h
  cases h with
  | blank _ space => subst is; cases space
  | quote => exact .inr (.inl ⟨_, .string, rfl⟩)
  | keyQuote => exact .inr (.inl ⟨_, .key, rfl⟩)
  | letter _ name => subst is; simp [literals] at name
  | digit _ first => subst is; cases first
  | literalMore => subst is; exact absurd (List.mem_cons_self ..) (clean _ _ rfl)
  | literalEnd => subst is; exact absurd (List.mem_cons_self ..) (clean _ _ rfl)
  | keyMore read =>
    subst is
    rcases Quotation.step_quote read with ⟨_, text, same⟩ | ⟨left, same, plain | spoiled⟩
    · cases same
    · cases same; exact .inr (.inl ⟨_, .key, plain⟩)
    · cases same; exact .inr (.inr ⟨_, .key, spoiled⟩)
  | stringMore read =>
    subst is
    rcases Quotation.step_quote read with ⟨_, text, same⟩ | ⟨left, same, plain | spoiled⟩
    · cases same
    · cases same; exact .inr (.inl ⟨_, .string, plain⟩)
    · cases same; exact .inr (.inr ⟨_, .string, spoiled⟩)
  | keyEnd => exact .inl .key
  | stringEnd _ settled => exact .inl (.value (settled_of_settle settled))
  | numberMore read => subst is; exact absurd read (Numeral.step_ne_more (by decide) (by decide))
  | numberEnd _ _ settled step =>
    subst is
    exact absurd (separator_of_behind (.value (settled_of_settle settled)) step) (by decide)
  | brace | bracket | listEmpty | listComma | listEnd | objectEmpty | objectComma | objectEnd
  | colon => exact absurd is (by decide)

/-- Two quotes and then a letter end every hope that the text can be read. -/
theorem doomed_of_quotes {root : Root} {a b c d : Reader} {letter : Char} (clean : Clean a)
    (ordinary : isSeparator letter = false) (first : Step root a '"' b)
    (second : Step root b '"' c) (third : Step root c letter d) : Doomed d := by
  have behind (h : Behind c) : Doomed d := by
    have := separator_of_behind h third
    rw [ordinary] at this
    cases this
  -- The first quote has ended a string, begun one or left it open, or spoiled an escape.
  rcases step_quote clean first with ended | ⟨scan, within, plain⟩ | doomed
  · exact absurd (separator_of_behind ended second) (by decide)
  · rcases step_within within second with ⟨more, read, _⟩ | ⟨text, _, ended⟩
    · simp [Quotation.step, plain] at read
    · exact behind ended
  · exact doomed_step (doomed_step doomed second) third

theorem doomed_run {root : Root} {r next : Reader} {text : Text} (doomed : Doomed r)
    (h : run root r text = .ok next) : Doomed next :=
  run_induction Doomed doomed (fun _ _ _ => doomed_step) h

end Reader

/-- No text that is accepted holds two quotes in a row and then a letter, be it in a string
or between two of them. -/
theorem read_ne_of_quotes {letter : Char} (ordinary : Reader.isSeparator letter = false)
    (root : Root) (before behind : Text) (value : Value) :
    read root (before ++ '"' :: '"' :: letter :: behind) ≠ .ok value := by
  intro accepted
  obtain ⟨last, run, finish⟩ := run_of_read accepted
  obtain ⟨a, start, run⟩ := Reader.run_append_ok run
  obtain ⟨b, first, run⟩ := Reader.run_cons_ok run
  obtain ⟨c, second, run⟩ := Reader.run_cons_ok run
  obtain ⟨d, third, run⟩ := Reader.run_cons_ok run
  have doomed := Reader.doomed_of_quotes (Reader.clean_run start) ordinary
    (Reader.step_ok first) (Reader.step_ok second) (Reader.step_ok third)
  obtain ⟨scan, within, _⟩ := Reader.doomed_run doomed run
  rw [Reader.finish_within within] at finish
  cases finish

/-- The last quote of an accepted text ends a string. Written twice it opens another one
where none may stand. -/
theorem read_last_quote_doubled {root : Root} {before behind : Text} {value : Value}
    (last : '"' ∉ behind) (accepted : read root (before ++ '"' :: behind) = .ok value) :
    read root (before ++ '"' :: '"' :: behind) = .error .malformed := by
  obtain ⟨r, run, finish⟩ := run_of_read accepted
  obtain ⟨a, start, run⟩ := Reader.run_append_ok run
  obtain ⟨b, moved, run⟩ := Reader.run_cons_ok run
  have unclosed {scan : Quotation.Scan} (within : Reader.Within b scan) : False := by
    obtain ⟨more, inside⟩ := Reader.within_run last within run
    rw [Reader.finish_within inside] at finish
    cases finish
  have behind : Reader.Behind b := by
    rcases Reader.step_quote (Reader.clean_run start) (Reader.step_ok moved) with
      ended | ⟨scan, within, _⟩ | ⟨scan, within, _⟩
    · exact ended
    · exact (unclosed within).elim
    · exact (unclosed within).elim
  simp [read, Reader.run_append, start, Except.bind, Reader.run, moved,
    Reader.step_behind_quote root behind, bind]

def EndsInString (text : Text) : Prop :=
  ∃ r scan, Reader.run .object .start text = .ok r ∧ Reader.Within r scan

/-- Where the last quote of a part of an accepted text can be written twice, it is no end of a
string. So the part breaks off within one. -/
theorem endsInString_of_last_doubled {before behind tail : Text} {value other : Value}
    (last : '"' ∉ behind) (accepted : read .object (before ++ '"' :: behind ++ tail) = .ok value)
    (doubled : read .object (before ++ '"' :: '"' :: behind) = .ok other) :
    EndsInString (before ++ '"' :: behind) := by
  obtain ⟨r, run, -⟩ := run_of_read accepted
  obtain ⟨part, reached, -⟩ := Reader.run_append_ok run
  obtain ⟨a, start, run⟩ := Reader.run_append_ok reached
  obtain ⟨b, moved, run⟩ := Reader.run_cons_ok run
  have inside {scan : Quotation.Scan} (within : Reader.Within b scan) :
      EndsInString (before ++ '"' :: behind) := by
    obtain ⟨more, still⟩ := Reader.within_run last within run
    exact ⟨part, more, reached, still⟩
  rcases Reader.step_quote (Reader.clean_run start) (Reader.step_ok moved) with
    ended | ⟨scan, within, _⟩ | ⟨scan, within, _⟩
  · have refused : read .object (before ++ '"' :: '"' :: behind) = .error .malformed := by
      simp [read, Reader.run_append, start, Except.bind, Reader.run, moved,
        Reader.step_behind_quote .object ended, bind]
    rw [refused] at doubled
    cases doubled
  · exact inside within
  · exact inside within

end OrderReplay.Json
