import OrderReplay.Proofs.Json.Whole
import OrderReplay.Proofs.Payload.Bounds
import OrderReplay.Proofs.Payload.Untouched

/-! Failure lines that hold an object cut short, or an object with more behind it. Neither
gives an order line: the one is read as incomplete, whatever braces are left in it, and the
other is refused at what stands behind the object. -/
namespace OrderReplay.FailureLine

open Payload Payload.DoubledQuotes

/-- A line without an opening brace holds no object. -/
theorem outcome_of_unopened {line : Text} (marked : marker <:+: line) (clear : '\x7b' ∉ line) :
    outcome outerBraces line = .dropped .noObject := by
  have failure : isFailure line = true := (Text.occurs_iff _ _).2 marked
  have skipped : line.dropWhile (· ≠ '\x7b') = [] := by
    rw [← List.append_nil line, List.dropWhile_append_of_pos]
    · rfl
    · exact fun c member => decide_eq_true fun same => clear (same ▸ member)
  have none : outerBraces line = none := by rw [outerBraces, skipped]; rfl
  simp only [outcome, failure, if_true, none]

/-- Nor does one without a closing brace behind the opening one. -/
theorem outcome_of_unclosed {before rest : Text} (marked : marker <:+: before)
    (clear : '\x7b' ∉ before) (unclosed : '\x7d' ∉ '\x7b' :: rest) :
    outcome outerBraces (before ++ '\x7b' :: rest) = .dropped .noObject := by
  have failure : isFailure (before ++ '\x7b' :: rest) = true :=
    (Text.occurs_iff _ _).2 (marked.trans (List.prefix_append _ _).isInfix)
  have none : outerBraces (before ++ '\x7b' :: rest) = none := by
    rw [outerBraces, dropWhile_brace clear]
    exact (throughLast_eq_none_iff _ _).2 unclosed
  simp only [outcome, failure, if_true, none]

/-- A payload in which the doubled key does not show is dropped as it is refused. -/
theorem ofPayload_of_refused {payload : Text} {flaw : Json.Flaw} (unseen : shown payload = false)
    (refused : Json.read .object payload = .error flaw) :
    OrderLine.ofPayload payload = .error (.invalidJson payload flaw) := by
  rw [ofPayload_of_repair (repair_of_shown unseen), Json.readObject_of_read refused]

theorem outcome_of_cut {before part tail : Text} {value : Json.Value}
    (accepted : Json.read .object (part ++ tail) = .ok value) (brace : '\x7d' ∈ tail)
    (opens : (part ++ tail).head? = some '\x7b') (marked : marker <:+: before)
    (clear : '\x7b' ∉ before) :
    outcome outerBraces (before ++ part) = .dropped
      (match throughLast '\x7d' part with
        | none => .noObject
        | some payload => .invalidJson payload .incomplete) := by
  cases part with
  | nil =>
    rw [List.append_nil]
    exact outcome_of_unopened marked clear
  | cons first rest =>
    obtain rfl : first = '\x7b' := by simpa using opens
    by_cases closed : '\x7d' ∈ '\x7b' :: rest
    · obtain ⟨inner, behind, split, silent⟩ := exists_last closed
      have whole : inner ++ '\x7d' :: (behind ++ tail) = '\x7b' :: rest ++ tail := by
        rw [split, List.append_assoc, List.cons_append]
      have payload : '\x7b' :: rest = (inner ++ ['\x7d']) ++ behind := by simp [split]
      have refused : Json.read .object (inner ++ ['\x7d']) = .error .incomplete :=
        Json.read_cut (whole ▸ accepted) (List.mem_append_right behind brace) rfl
      have unseen : shown (inner ++ ['\x7d']) = false := by
        rw [payload, List.append_assoc] at accepted
        exact shown_of_accepted accepted
      have begins : (inner ++ ['\x7d']).head? = some '\x7b' := by
        cases inner with
        | nil => cases split
        | cons c inner =>
          obtain ⟨rfl, _⟩ := List.cons.inj split
          rfl
      have found : throughLast '\x7d' ('\x7b' :: rest) = some (inner ++ ['\x7d']) := by
        rw [split, throughLast_append silent]
      rw [found, payload, ← List.append_assoc,
        outcome_of_braces marked clear begins (by simp) silent,
        ofPayload_of_refused unseen refused]
    · rw [(throughLast_eq_none_iff _ _).2 closed]
      exact outcome_of_unclosed marked clear closed

theorem outcome_of_continued {before text more behind : Text} {value : Json.Value}
    (accepted : Json.read .object text = .ok value) (opens : text.head? = some '\x7b')
    (marked : marker <:+: before) (clear : '\x7b' ∉ before) (silent : '\x7d' ∉ behind)
    (unseen : ¬ telltale <:+: text ++ more ++ ['\x7d']) :
    outcome outerBraces (before ++ text ++ (more ++ '\x7d' :: behind)) =
      .dropped (.invalidJson (text ++ more ++ ['\x7d']) .malformed) := by
  have refused : Json.read .object (text ++ more ++ ['\x7d']) = .error .malformed := by
    have brace : '\x7d' ∈ more ++ ['\x7d'] := by simp
    rw [List.append_assoc]
    exact Json.read_append_ordinary accepted brace rfl
  have quiet : shown (text ++ more ++ ['\x7d']) = false := by
    rw [← Bool.not_eq_true]
    exact fun found => unseen ((Text.occurs_iff _ _).1 found)
  have begins : (text ++ more ++ ['\x7d']).head? = some '\x7b' := by
    rw [List.append_assoc, List.head?_append, opens]
    rfl
  have line : before ++ text ++ (more ++ '\x7d' :: behind) =
      before ++ (text ++ more ++ ['\x7d']) ++ behind := by simp
  rw [line, outcome_of_braces marked clear begins (by simp) silent,
    ofPayload_of_refused quiet refused]

/-- An accepted object is recovered whole or not at all. A line that ends within it is
dropped, for want of an object or with an incomplete one. A line that goes on behind it to
another closing brace is dropped as malformed, unless a doubled key shows between the first
and the last brace. -/
theorem whole_or_dropped {text before : Text} {fields : Json.Members}
    (opens : text.head? = some '\x7b') (closes : text.getLast? = some '\x7d')
    (accepted : Json.readObject text = .ok fields) (marked : marker <:+: before)
    (clear : '\x7b' ∉ before) :
    (∀ part, part <+: text → part ≠ text →
      outcome outerBraces (before ++ part) = .dropped
        (match throughLast '\x7d' part with
          | none => .noObject
          | some payload => .invalidJson payload .incomplete)) ∧
    ∀ continuation, '\x7d' ∈ continuation →
      ∃ more behind, continuation = more ++ '\x7d' :: behind ∧ '\x7d' ∉ behind ∧
        (¬ ['"', '"', 'i', 'd', '"', '"'] <:+: text ++ more ++ ['\x7d'] →
          outcome outerBraces (before ++ text ++ continuation) =
            .dropped (.invalidJson (text ++ more ++ ['\x7d']) .malformed)) := by
  have read := Json.read_of_readObject accepted
  constructor
  · rintro part ⟨tail, rfl⟩ proper
    obtain ⟨inner, last⟩ := List.getLast?_eq_some_iff.1 closes
    have brace : '\x7d' ∈ tail := by
      rcases List.eq_nil_or_concat tail with rfl | ⟨front, c, rfl⟩
      · exact absurd (List.append_nil part).symm proper
      · rw [List.concat_eq_append, ← List.append_assoc] at last
        obtain ⟨_, same⟩ := List.append_inj' last rfl
        rw [List.concat_eq_append, same]
        exact List.mem_append_right front (List.mem_singleton_self _)
    exact outcome_of_cut read brace opens marked clear
  · intro continuation closed
    obtain ⟨more, behind, rfl, silent⟩ := exists_last closed
    exact ⟨more, behind, rfl, silent, outcome_of_continued read opens marked clear silent⟩

/-- A closing brace before the object, one in a string, and an object within the object. The
first line ends before the last brace; the second goes on to another object. -/
theorem whole_or_dropped_nested :
    let before := marker ++ [' ', '\x7d', ' ']
    let part := "\x7b\"id\":\"\x7d\",\"x\":\x7b\x7d".toList
    let text := part ++ ['\x7d']
    let another := ",\x7b\x7d".toList
    Json.readObject text = .ok [(idKey, .string ['\x7d']), (['x'], .object [])] ∧
      outcome outerBraces (before ++ part) = .dropped (.invalidJson part .incomplete) ∧
      outcome outerBraces (before ++ text ++ (another ++ [' ', '.'])) =
        .dropped (.invalidJson (text ++ another) .malformed) := by
  intro before part text another
  have accepted : Json.readObject text =
      .ok [(idKey, .string ['\x7d']), (['x'], .object [])] := by rfl
  have marked : marker <:+: before := (List.prefix_append ..).isInfix
  obtain ⟨cut, continued⟩ :=
    @whole_or_dropped text before _ (by decide) (by decide) accepted marked (by decide)
  have dropped := cut part (List.prefix_append ..) (by decide)
  have closed : throughLast '\x7d' part = some part := by decide
  rw [closed] at dropped
  obtain ⟨more, behind, split, silent, refused⟩ := continued (another ++ [' ', '.']) (by decide)
  have last : some (more ++ ['\x7d']) = some another := by
    rw [← throughLast_append silent more, ← split]
    decide
  rw [List.append_assoc, Option.some.inj last] at refused
  exact ⟨accepted, dropped, refused (by rw [← Text.occurs_iff]; decide)⟩

end OrderReplay.FailureLine
