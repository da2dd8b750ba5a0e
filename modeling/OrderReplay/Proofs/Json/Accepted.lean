import OrderReplay.Proofs.Json.Parts

/-! What is read from a text is what the text spells. The argument goes from the end of the
text to its start: a state of the reader says what the rest of the text must be for it to be
accepted, and this remains so with one more character in front. -/
namespace OrderReplay.Json.Reader

/-- What must follow a value for the containers around it to be closed. -/
def Closes (whole : Value) : List Frame → Value → Text → Prop
  | [], value, text => whole = value ∧ Blank text
  | .list items :: outer, value, text => ∃ trees behind, Rest ']' Gives text trees behind ∧
      Closes whole outer (.list (items.reverse ++ value :: trees.map Tree.read)) behind
  | .object members key :: outer, value, text => ∃ more behind,
      Rest '\x7d' GivesMember text more behind ∧
      Closes whole outer (.object (assign (members.put key value) more)) behind

def ValueDue (whole : Value) (stack : List Frame) (text : Text) : Prop :=
  ∃ front tree behind, text = front ++ behind ∧ Gives front tree ∧
    Closes whole stack tree.read behind

def ColonDue (whole : Value) (stack : List Frame) (members : Members) (key : Text) (text : Text) :
    Prop :=
  ∃ blank rest, text = blank ++ ':' :: rest ∧ Blank blank ∧
    ValueDue whole (.object members key :: stack) rest

def KeyFollows (whole : Value) (stack : List Frame) (members : Members) (text : Text) : Prop :=
  ∃ front key behind, text = front ++ behind ∧ Spells front (.string key) ∧
    ColonDue whole stack members key behind

def QuoteDue (scan : Quotation.Scan) (then? : Text → Text → Prop) (text : Text) : Prop :=
  ∃ front last behind, text = front ++ '"' :: behind ∧
    Goes Quotation.Moves scan front last ∧ last.place = .plain ∧ then? last.read.reverse behind

/-- What must follow in a state for the whole text to be read as a value. -/
def Demands (whole : Value) (r : Reader) (text : Text) : Prop :=
  match r.mode with
  | .value => ValueDue whole r.stack text
  | .listStart =>
    (∃ blank behind, text = blank ++ ']' :: behind ∧ Blank blank ∧
      Closes whole r.stack (.list []) behind) ∨ ValueDue whole (.list [] :: r.stack) text
  | .listNext items => ∃ trees behind, Rest ']' Gives text trees behind ∧
      Closes whole r.stack (.list (items.reverse ++ trees.map Tree.read)) behind
  | .objectStart =>
    (∃ blank behind, text = blank ++ '\x7d' :: behind ∧ Blank blank ∧
      Closes whole r.stack (.object []) behind) ∨ KeyFollows whole r.stack [] text
  | .key members => KeyFollows whole r.stack members text
  | .colon members key => ColonDue whole r.stack members key text
  | .objectNext members => ∃ more behind, Rest '\x7d' GivesMember text more behind ∧
      Closes whole r.stack (.object (assign members more)) behind
  | .string scan => QuoteDue scan (fun read => Closes whole r.stack (.string read)) text
  | .keyString members scan => QuoteDue scan (ColonDue whole r.stack members) text
  | .number negative phase => ∃ front last number behind, text = front ++ behind ∧
      Goes Numeral.Moves phase front last ∧ Numeral.finish negative last = .ok number ∧
      Closes whole r.stack (.number number) behind
  | .literal due value => ∃ behind, text = due ++ behind ∧ Closes whole r.stack value behind
  | .complete value => whole = value ∧ Blank text

variable {whole : Value} {root : Root}

theorem mem_blanks {c : Char} (h : isSpace c = true) : c ∈ [' ', '\t', '\n', '\r'] := by
  simpa [isSpace, or_assoc] using h

theorem ValueDue.cons {stack : List Frame} {c : Char} {text : Text} (space : isSpace c = true)
    (h : ValueDue whole stack text) : ValueDue whole stack (c :: text) := by
  obtain ⟨front, tree, behind, rfl, gives, closes⟩ := h
  have only : Blank [c] := by simpa [Blank] using mem_blanks space
  exact ⟨c :: front, tree, behind, rfl, gives.before only, closes⟩

theorem ColonDue.cons {stack : List Frame} {members : Members} {key : Text} {c : Char}
    {text : Text} (space : isSpace c = true) (h : ColonDue whole stack members key text) :
    ColonDue whole stack members key (c :: text) := by
  obtain ⟨blank, rest, rfl, only, due⟩ := h
  exact ⟨c :: blank, rest, rfl, List.forall_mem_cons.2 ⟨mem_blanks space, only⟩, due⟩

theorem KeyFollows.cons {stack : List Frame} {members : Members} {c : Char} {text : Text}
    (space : isSpace c = true) (h : KeyFollows whole stack members text) :
    KeyFollows whole stack members (c :: text) := by
  obtain ⟨front, key, behind, rfl, spells, due⟩ := h
  have only : Blank [c] := by simpa [Blank] using mem_blanks space
  have padded := Spells.blank only blank_nil spells
  rw [List.append_nil] at padded
  exact ⟨c :: front, key, behind, rfl, padded, due⟩

theorem demands_blank {r : Reader} {c : Char} {text : Text} (idle : r.mode.isIdle = true)
    (space : isSpace c = true) (h : Demands whole r text) : Demands whole r (c :: text) := by
  obtain ⟨stack, mode⟩ := r
  have blank := mem_blanks space
  cases mode with
  | value => exact ValueDue.cons space h
  | listStart =>
    rcases h with ⟨front, behind, rfl, only, closes⟩ | due
    · exact .inl ⟨c :: front, behind, rfl, List.forall_mem_cons.2 ⟨blank, only⟩, closes⟩
    · exact .inr (due.cons space)
  | listNext | objectNext =>
    obtain ⟨contents, behind, rest, closes⟩ := h
    exact ⟨contents, behind, rest.cons blank, closes⟩
  | objectStart =>
    rcases h with ⟨front, behind, rfl, only, closes⟩ | due
    · exact .inl ⟨c :: front, behind, rfl, List.forall_mem_cons.2 ⟨blank, only⟩, closes⟩
    · exact .inr (due.cons space)
  | key => exact KeyFollows.cons space h
  | colon => exact ColonDue.cons space h
  | complete => exact ⟨h.1, List.forall_mem_cons.2 ⟨blank, h.2⟩⟩
  | string | keyString | number | literal => cases idle

theorem demands_of_expects {r : Reader} {stack : List Frame} {text : Text}
    (expects : Expects r stack) (h : ValueDue whole stack text) : Demands whole r text := by
  cases expects with
  | value => exact h
  | item => exact .inr h

theorem demands_of_keyDue {stack : List Frame} {mode : Mode} {members : Members} {text : Text}
    (due : KeyDue mode members) (h : KeyFollows whole stack members text) :
    Demands whole ⟨stack, mode⟩ text := by
  cases due with
  | first => exact .inr h
  | later => exact h

/-- Where a value takes its place, the state behind it demands that the containers close. -/
theorem closes_of_settle {value : Value} {stack : List Frame} {next : Reader} {text : Text}
    (settled : settle root value stack = .ok next) (h : Demands whole next text) :
    Closes whole stack value text := by
  cases stack with
  | nil =>
    simp only [settle] at settled
    split at settled
    · obtain rfl := Except.ok.inj settled
      exact h
    · cases settled
  | cons frame outer =>
    cases frame with
    | list items =>
      obtain rfl := Except.ok.inj settled
      obtain ⟨trees, behind, rest, closes⟩ := h
      refine ⟨trees, behind, rest, ?_⟩
      simpa using closes
    | object members key =>
      obtain rfl := Except.ok.inj settled
      exact h

theorem spells_literal {name : Text} {value : Value} (h : (name, value) ∈ literals) :
    ∃ tree, Gives name tree ∧ tree.read = value := by
  simp only [literals, List.mem_cons, Prod.mk.injEq, List.not_mem_nil, or_false] at h
  rcases h with ⟨rfl, rfl⟩ | ⟨rfl, rfl⟩ | ⟨rfl, rfl⟩
  · exact ⟨.null, ⟨.null, .null⟩, by rw [Tree.read]⟩
  · exact ⟨.bool true, ⟨.true, .bool⟩, by rw [Tree.read]⟩
  · exact ⟨.bool false, ⟨.false, .bool⟩, by rw [Tree.read]⟩

theorem spells_quoted {front : Text} {last : Quotation.Scan}
    (goes : Goes Quotation.Moves .start front last) (plain : last.place = .plain) :
    Spells ('"' :: front ++ ['"']) (.string last.read.reverse) := by
  obtain ⟨letters, text, read, each⟩ := Quotation.letters_of_goes goes plain .plain
  rw [List.nil_append] at text
  rw [read, text]
  exact .string each

theorem closed_read {scan : Quotation.Scan} {c : Char} {text : Text}
    (h : Quotation.step scan c = .ok (.closed text)) :
    c = '"' ∧ scan.place = .plain ∧ text = scan.read.reverse := by
  obtain ⟨rfl, plain⟩ := Quotation.step_closed h
  refine ⟨rfl, plain, ?_⟩
  simp only [Quotation.step, plain, if_true, Except.ok.injEq, Quotation.Progress.closed.injEq] at h
  exact h.symm

theorem valueDue_of_listStart {stack : List Frame} {text : Text}
    (h : Demands whole ⟨stack, .listStart⟩ text) : ValueDue whole stack ('[' :: text) := by
  rcases h with ⟨blank, behind, rfl, only, closes⟩ | ⟨front, tree, behind, rfl, gives, closes⟩
  · refine ⟨'[' :: blank ++ [']'], .list [], behind, by simp,
      ⟨.emptyList only, .list (by simp)⟩, ?_⟩
    rwa [Tree.read, Tree.readItems]
  · obtain ⟨trees, after, rest, closes⟩ := closes
    obtain ⟨inner, split, list⟩ := gives_list gives rest
    refine ⟨'[' :: inner ++ [']'], .list (tree :: trees), after, by simp [split], list, ?_⟩
    rw [Tree.read, Tree.readItems_eq]
    exact closes

/-- A member and those behind it. -/
theorem rest_of_keyFollows {stack : List Frame} {members : Members} {text : Text}
    (h : KeyFollows whole stack members text) :
    ∃ front member rest more behind, text = front ++ rest ∧ GivesMember front member ∧
      Rest '\x7d' GivesMember rest more behind ∧
      Closes whole stack (.object (assign members (member :: more))) behind := by
  obtain ⟨keyText, key, _, rfl, spells, blank, _, rfl, only, front, tree, behind, rfl, gives,
    more, after, rest, closes⟩ := h
  refine ⟨keyText ++ blank ++ ':' :: front, (key, tree), behind, more, after, by simp, ?_, rest,
    closes⟩
  exact ⟨keyText ++ blank, front, rfl, .blank blank_nil only spells, gives⟩

theorem valueDue_of_objectStart {stack : List Frame} {text : Text}
    (h : Demands whole ⟨stack, .objectStart⟩ text) : ValueDue whole stack ('\x7b' :: text) := by
  rcases h with ⟨blank, behind, rfl, only, closes⟩ | due
  · refine ⟨'\x7b' :: blank ++ ['\x7d'], .object [], behind, by simp,
      ⟨.emptyObject only, .object (by simp)⟩, ?_⟩
    rwa [Tree.read, Tree.readMembers]
  · obtain ⟨front, member, rest, more, behind, rfl, first, later, closes⟩ := rest_of_keyFollows due
    obtain ⟨inner, split, object⟩ := gives_object first later
    refine ⟨'\x7b' :: inner ++ ['\x7d'], .object (merged (member :: more)), behind,
      by simp [split], object, ?_⟩
    rw [Tree.read, Tree.readMembers_eq, ← assign_nil]
    exact closes

/-- One more character in front. -/
theorem demands_step {r next : Reader} {c : Char} {text : Text} (h : Step root r c next)
    (demands : Demands whole next text) : Demands whole r (c :: text) := by
  induction h with
  | blank idle space => exact demands_blank idle space demands
  | brace expects => exact demands_of_expects expects (valueDue_of_objectStart demands)
  | bracket expects => exact demands_of_expects expects (valueDue_of_listStart demands)
  | quote expects =>
    obtain ⟨front, last, behind, rfl, goes, plain, closes⟩ := demands
    refine demands_of_expects expects ⟨'"' :: front ++ ['"'], .string last.read.reverse, behind,
      by simp, ⟨spells_quoted goes plain, .string⟩, ?_⟩
    rwa [Tree.read]
  | letter expects name =>
    obtain ⟨behind, rfl, closes⟩ := demands
    obtain ⟨tree, gives, rfl⟩ := spells_literal name
    exact demands_of_expects expects ⟨_, tree, behind, rfl, gives, closes⟩
  | digit expects first =>
    obtain ⟨front, last, number, behind, rfl, goes, finished, closes⟩ := demands
    obtain ⟨n, lawful, spelled⟩ := Numeral.lawful_of_goes first goes finished
    have known := Numeral.number?_of_goes spelled first goes finished
    have spells := Spells.number lawful
    rw [spelled] at spells
    refine demands_of_expects expects ⟨_ :: front, .number n, behind, rfl,
      ⟨spells, .number (by rw [known]; rfl)⟩, ?_⟩
    rw [Tree.read, Numeral.number, known]
    exact closes
  | listEmpty settled => exact .inl ⟨[], text, rfl, blank_nil, closes_of_settle settled demands⟩
  | listComma =>
    obtain ⟨front, tree, behind, rfl, gives, trees, after, rest, closes⟩ := demands
    exact ⟨tree :: trees, after, .more blank_nil gives rest, closes⟩
  | listEnd settled =>
    refine ⟨[], text, .close blank_nil, ?_⟩
    simpa using closes_of_settle settled demands
  | objectEmpty settled => exact .inl ⟨[], text, rfl, blank_nil, closes_of_settle settled demands⟩
  | objectComma =>
    obtain ⟨front, member, rest, more, behind, rfl, first, later, closes⟩ :=
      rest_of_keyFollows demands
    exact ⟨member :: more, behind, .more blank_nil first later, closes⟩
  | objectEnd settled =>
    exact ⟨[], text, .close blank_nil, closes_of_settle settled demands⟩
  | keyQuote due =>
    obtain ⟨front, last, behind, rfl, goes, plain, colon⟩ := demands
    exact demands_of_keyDue due ⟨'"' :: front ++ ['"'], last.read.reverse, behind, by simp,
      spells_quoted goes plain, colon⟩
  | keyMore read | stringMore read =>
    obtain ⟨front, last, behind, rfl, goes, plain, due⟩ := demands
    exact ⟨_ :: front, last, behind, rfl, .more read goes, plain, due⟩
  | keyEnd read =>
    obtain ⟨rfl, plain, rfl⟩ := closed_read read
    exact ⟨[], _, text, rfl, .done, plain, demands⟩
  | colon => exact ⟨[], text, rfl, blank_nil, demands⟩
  | stringEnd read settled =>
    obtain ⟨rfl, plain, rfl⟩ := closed_read read
    exact ⟨[], _, text, rfl, .done, plain, closes_of_settle settled demands⟩
  | literalMore =>
    obtain ⟨behind, rfl, closes⟩ := demands
    exact ⟨behind, rfl, closes⟩
  | literalEnd settled => exact ⟨text, rfl, closes_of_settle settled demands⟩
  | numberMore read =>
    obtain ⟨front, last, number, behind, rfl, goes, finished, closes⟩ := demands
    exact ⟨_ :: front, last, number, behind, rfl, .more read goes, finished, closes⟩
  | numberEnd _ finished settled _ ih =>
    exact ⟨[], _, _, _, rfl, .done, finished, closes_of_settle settled (ih demands)⟩

theorem demands_of_run {r last : Reader} {text : Text} (h : run root r text = .ok last)
    (demands : Demands whole last []) : Demands whole r text := by
  induction text generalizing r with
  | nil =>
    obtain rfl := Except.ok.inj h
    exact demands
  | cons c rest ih =>
    obtain ⟨mid, moved, h⟩ := run_cons_ok h
    exact demands_step (step_ok moved) (ih h)

/-- Where a text may end, nothing more is demanded. -/
theorem demands_of_finish {r : Reader} (h : finish root r = .ok whole) : Demands whole r [] := by
  obtain ⟨stack, mode⟩ := r
  cases mode with
  | complete value => exact ⟨(Except.ok.inj h).symm, blank_nil⟩
  | number negative phase =>
    obtain ⟨number, finished, h⟩ := ok_of_bind h
    obtain ⟨behind, settled, h⟩ := ok_of_bind h
    refine ⟨[], _, number, [], rfl, .done, finished, closes_of_settle settled ?_⟩
    cases settled_of_settle settled with
    | complete => exact ⟨(Except.ok.inj h).symm, blank_nil⟩
    | list | object => cases h
  | _ => cases h

end Reader

/-- An accepted text spells a tree whose numerals are all in range, and is read as that tree. -/
theorem gives_of_read {root : Root} {text : Text} {value : Value}
    (h : read root text = .ok value) : ∃ tree, Gives text tree ∧ value = tree.read := by
  obtain ⟨r, run, finish⟩ := run_of_read h
  have demands := Reader.demands_of_run run (Reader.demands_of_finish finish)
  obtain ⟨front, tree, behind, rfl, gives, rfl, only⟩ := demands
  exact ⟨tree, gives.behind only, rfl⟩

end OrderReplay.Json
