import OrderReplay.Proofs.Json.Step

/-! No text that holds an object begins another one. Behind its closing brace only blanks may
follow, and up to any earlier brace it is only a part, whatever braces it holds. -/
namespace OrderReplay.Json

namespace Reader

/-- Behind a complete value nothing but blanks is taken. -/
theorem run_complete {root : Root} {r : Reader} {value : Value} {c : Char} {text : Text}
    (complete : r.mode = .complete value) (member : c ∈ text) (ordinary : isSpace c = false) :
    run root r text = .error .malformed := by
  induction text with
  | nil => cases member
  | cons first rest ih =>
    have moves : step root r first = if isSpace first then .ok r else .error .malformed := by
      simp only [step, stepBehind, complete]
    rw [run, moves]
    cases space : isSpace first with
    | false => rfl
    | true =>
      rcases List.mem_cons.1 member with rfl | later
      · rw [ordinary] at space
        cases space
      · exact ih later

/-- Where an object must stand a number is never all of the text. -/
theorem finish_number {r : Reader} {negative : Bool} {phase : Numeral.Phase} {value : Value}
    (number : r.mode = .number negative phase) : finish .object r ≠ .ok value := by
  intro h
  simp only [finish, number] at h
  obtain ⟨n, _, h⟩ := ok_of_bind h
  obtain ⟨behind, settled, h⟩ := ok_of_bind h
  cases stack : r.stack with
  | nil =>
    rw [stack] at settled
    cases settled
  | cons frame outer =>
    rw [stack] at settled
    cases frame <;> (obtain rfl := Except.ok.inj settled; cases h)

theorem complete_of_finish {r : Reader} {value : Value} (h : finish .object r = .ok value) :
    r.mode = .complete value := by
  cases mode : r.mode with
  | complete found =>
    simp only [finish, mode] at h
    rw [Except.ok.inj h]
  | number negative phase => exact absurd h (finish_number mode)
  | _ =>
    simp only [finish, mode] at h
    cases h

/-- A closing brace belongs to no number. -/
theorem step_brace {root : Root} {r next : Reader} (h : Step root r '\x7d' next)
    (negative : Bool) (phase : Numeral.Phase) : next.mode ≠ .number negative phase := by
  generalize is : '\x7d' = c at h
  have behind {value : Value} {stack : List Frame} {next : Reader}
      (settled : settle root value stack = .ok next) : next.mode ≠ .number negative phase := by
    cases settled_of_settle settled <;> simp
  induction h with
  | blank _ space => subst is; cases space
  | digit _ first => subst is; cases first
  | numberMore read => subst is; exact absurd read (Numeral.step_ne_more (by decide) (by decide))
  | numberEnd _ _ _ _ ih => exact ih is
  | listEmpty settled | listEnd settled | objectEmpty settled | objectEnd settled
  | stringEnd _ settled | literalEnd settled => exact behind settled
  | brace | bracket | quote | letter | listComma | objectComma | keyQuote | keyMore | keyEnd
  | colon | stringMore | literalMore => simp

end Reader

/-- An object and then more than blanks are not an object. -/
theorem read_append_ordinary {text behind : Text} {value : Value} {c : Char}
    (accepted : read .object text = .ok value) (member : c ∈ behind)
    (ordinary : Reader.isSpace c = false) :
    read .object (text ++ behind) = .error .malformed := by
  obtain ⟨r, run, finish⟩ := run_of_read accepted
  have rest : Reader.run .object r behind = .error .malformed :=
    Reader.run_complete (Reader.complete_of_finish finish) member ordinary
  simp only [read, Reader.run_append, run, Except.bind, rest, bind]

/-- What is cut from an object at an earlier brace is not an object yet. -/
theorem read_cut {inner behind : Text} {value : Value} {c : Char}
    (accepted : read .object (inner ++ '\x7d' :: behind) = .ok value) (member : c ∈ behind)
    (ordinary : Reader.isSpace c = false) :
    read .object (inner ++ ['\x7d']) = .error .incomplete := by
  have split : inner ++ '\x7d' :: behind = (inner ++ ['\x7d']) ++ behind := by simp
  rw [split] at accepted
  obtain ⟨last, whole, _⟩ := run_of_read accepted
  obtain ⟨r, part, _⟩ := Reader.run_append_ok whole
  obtain ⟨before, _, brace⟩ := Reader.run_append_ok part
  obtain ⟨behindBrace, moved, same⟩ := Reader.run_cons_ok brace
  obtain rfl := Except.ok.inj same
  have unfinished (found : Value) : Reader.finish .object behindBrace ≠ .ok found := by
    intro finished
    have whole : read .object (inner ++ ['\x7d']) = .ok found := by
      simp only [read, part, bind, Except.bind, finished]
    have refused := read_append_ordinary whole member ordinary
    rw [accepted] at refused
    cases refused
  have waits : Reader.finish .object behindBrace = .error .incomplete := by
    cases mode : behindBrace.mode with
    | complete found =>
      exact absurd (by simp only [Reader.finish, mode]) (unfinished found)
    | number negative phase =>
      exact absurd mode (Reader.step_brace (Reader.step_ok moved) negative phase)
    | _ => simp only [Reader.finish, mode]
  simp only [read, part, bind, Except.bind, waits]

end OrderReplay.Json
