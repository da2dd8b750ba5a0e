import OrderReplay.FailureLine

/-! A payload found in its line. What stands before it must hold no opening brace and what
stands behind it no closing one; within it braces may stand as they like. Behind a separator, it
is all that follows the last one. -/
namespace OrderReplay.Payload

theorem exists_last {α : Type} {mark : α} {text : List α} (h : mark ∈ text) :
    ∃ before behind, text = before ++ mark :: behind ∧ mark ∉ behind := by
  obtain ⟨front, rest, split, bare⟩ := List.eq_append_cons_of_mem (List.mem_reverse.2 h)
  refine ⟨rest.reverse, front.reverse, ?_, by simpa using bare⟩
  rw [← List.reverse_reverse text, split]
  simp

theorem throughLast_append {mark : Char} {behind : Text} (h : mark ∉ behind) (text : Text) :
    throughLast mark (text ++ mark :: behind) = some (text ++ [mark]) := by
  induction text with
  | nil =>
    have none := (throughLast_eq_none_iff mark behind).2 h
    simp [throughLast, none]
  | cons c rest ih => simp [throughLast, ih]

theorem dropWhile_brace {before : Text} (h : '\x7b' ∉ before) (rest : Text) :
    (before ++ '\x7b' :: rest).dropWhile (· ≠ '\x7b') = '\x7b' :: rest := by
  rw [List.dropWhile_append_of_pos]
  · simp
  · intro c member
    exact decide_eq_true fun same => h (same ▸ member)

/-- Braces at both ends of a payload mark it off in its line. -/
theorem outerBraces_of_braces {before payload behind : Text}
    (opens : payload.head? = some '\x7b') (closes : payload.getLast? = some '\x7d')
    (clear : '\x7b' ∉ before) (silent : '\x7d' ∉ behind) :
    outerBraces (before ++ payload ++ behind) = some payload := by
  obtain ⟨inner, rfl⟩ := List.getLast?_eq_some_iff.1 closes
  have first : ∃ rest, inner ++ '\x7d' :: behind = '\x7b' :: rest := by
    cases inner with
    | nil => cases opens
    | cons c rest =>
      obtain rfl : c = '\x7b' := by simpa using opens
      exact ⟨rest ++ '\x7d' :: behind, rfl⟩
  obtain ⟨rest, split⟩ := first
  have shape : before ++ (inner ++ ['\x7d']) ++ behind = before ++ '\x7b' :: rest := by
    rw [← split]
    simp
  rw [outerBraces, shape, dropWhile_brace clear, ← split]
  exact throughLast_append silent inner

/-- What is found between the braces decides what becomes of the line. -/
theorem outcome_of_braces {before payload behind : Text}
    (marked : FailureLine.marker <:+: before) (clear : '\x7b' ∉ before)
    (opens : payload.head? = some '\x7b') (closes : payload.getLast? = some '\x7d')
    (silent : '\x7d' ∉ behind) :
    FailureLine.outcome outerBraces (before ++ payload ++ behind) =
      match OrderLine.ofPayload payload with
      | .ok line => .recovered line
      | .error reason => .dropped reason := by
  have failure : FailureLine.isFailure (before ++ payload ++ behind) = true := by
    refine (Text.occurs_iff _ _).2 (marked.trans ?_)
    rw [List.append_assoc]
    exact (List.prefix_append _ _).isInfix
  have found := outerBraces_of_braces opens closes clear silent
  cases given : OrderLine.ofPayload payload with
  | ok line => simp only [FailureLine.outcome, failure, if_true, found, given]
  | error reason => simp only [FailureLine.outcome, failure, if_true, found, given]

theorem afterLast_cons (separator : Text) (c : Char) (rest : Text) :
    afterLast separator (c :: rest) = (afterLast separator rest).or
      (if separator.isPrefixOf (c :: rest) then some ((c :: rest).drop separator.length)
        else none) := by
  rw [afterLast]
  cases afterLast separator rest <;> rfl

theorem afterLast_eq_none_iff {separator line : Text} :
    afterLast separator line = none ↔ ¬ separator <:+: line := by
  induction line with
  | nil => simp [afterLast]
  | cons c rest ih =>
    rw [afterLast_cons, Option.or_eq_none_iff, ih, List.infix_cons_iff,
      ← List.isPrefixOf_iff_prefix]
    grind

theorem suffix_of_no_longer {separator rest last other : Text} {c : Char}
    (stands : separator ++ last <:+ rest) (found : separator ++ other <:+ c :: rest)
    (short : other.length ≤ last.length) : separator ++ other <:+ rest := by
  rcases List.suffix_cons_iff.1 found with whole | within
  · have room := stands.length_le
    have long := congrArg List.length whole
    simp only [List.length_append, List.length_cons] at room long
    omega
  · exact within

/-- What is found behind a separator is what stands behind its last occurrence. -/
theorem afterLast_eq_some_iff {separator line payload : Text} :
    afterLast separator line = some payload ↔ separator ++ payload <:+ line ∧
      ∀ other, separator ++ other <:+ line → payload.length ≤ other.length := by
  induction line generalizing payload with
  | nil => cases separator <;> simp [afterLast]
  | cons c rest ih =>
    rw [afterLast_cons]
    cases later : afterLast separator rest with
    | some last =>
      obtain ⟨stands, least⟩ := ih.1 later
      have inside : separator ++ last <:+ c :: rest := stands.trans (List.suffix_cons c rest)
      rw [Option.some_or, Option.some.injEq]
      constructor
      · rintro rfl
        refine ⟨inside, fun other found => ?_⟩
        rcases Nat.le_total last.length other.length with longer | short
        · exact longer
        · exact least other (suffix_of_no_longer stands found short)
      · rintro ⟨found, least'⟩
        have short := least' last inside
        have within := suffix_of_no_longer stands found short
        have suffix : separator ++ payload <:+ separator ++ last :=
          List.suffix_of_suffix_length_le within stands (by simpa using short)
        have length := Nat.le_antisymm short (least payload within)
        exact (List.append_cancel_left (suffix.eq_of_length (by simpa using length))).symm
    | none =>
      have absent (other : Text) : ¬ separator ++ other <:+ rest := fun found =>
        afterLast_eq_none_iff.1 later ((List.prefix_append ..).isInfix.trans found.isInfix)
      simp only [List.suffix_cons_iff, absent, or_false, Option.none_or]
      constructor
      · intro found
        split at found
        next front =>
          obtain ⟨other, shape⟩ := List.isPrefixOf_iff_prefix.1 front
          rw [← shape, List.drop_left] at found
          obtain rfl := Option.some.inj found
          refine ⟨shape, fun same whole => Nat.le_of_eq ?_⟩
          rw [List.append_cancel_left (shape.trans whole.symm)]
        next => cases found
      · rintro ⟨shape, -⟩
        rw [← shape, if_pos (List.isPrefixOf_iff_prefix.2 (List.prefix_append ..)), List.drop_left]
end OrderReplay.Payload
