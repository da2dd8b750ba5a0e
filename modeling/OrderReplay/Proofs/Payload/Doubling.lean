import Mathlib.Algebra.Ring.Parity
import OrderReplay.Proofs.Payload.Bounds

/-! What the repair makes of a text whose quotes were all written twice. Doubled quotes are
taken in pairs from left to right, so the text comes back if it has an even number of
quotes; otherwise its last quote finds no partner and stays doubled. -/
namespace OrderReplay.Payload.DoubledQuotes

def doubled (text : Text) : Text := text.flatMap fun c => if c = '"' then ['"', '"'] else [c]

def lastDoubled : Text → Text
  | [] => []
  | c :: rest => if c = '"' ∧ '"' ∉ rest then '"' :: '"' :: rest else c :: lastDoubled rest

@[simp] theorem doubled_quote (rest : Text) :
    doubled ('"' :: rest) = '"' :: '"' :: doubled rest := rfl

@[simp] theorem doubled_append (a b : Text) : doubled (a ++ b) = doubled a ++ doubled b :=
  List.flatMap_append

theorem doubled_cons {c : Char} (other : c ≠ '"') (rest : Text) :
    doubled (c :: rest) = c :: doubled rest := by
  simp [doubled, other]

theorem doubled_of_not_mem {text : Text} (h : '"' ∉ text) : doubled text = text := by
  induction text with
  | nil => rfl
  | cons c rest ih =>
    simp only [List.mem_cons, not_or] at h
    rw [doubled_cons (Ne.symm h.1), ih h.2]

theorem not_mem_doubled {c : Char} {text : Text} (absent : c ∉ text) :
    c ∉ doubled text := by
  intro member
  obtain ⟨d, present, here⟩ := List.mem_flatMap.1 member
  split at here
  next same =>
    have quote : c = d := by simpa [same] using here
    exact absent (quote ▸ present)
  next => exact absent (List.mem_singleton.1 here ▸ present)

/-- What is cut from the front of a doubled text is doubled, but for half a quote at its end. -/
theorem prefix_doubled {text part : Text} (cut : part <+: doubled text) :
    ∃ front half, front <+: text ∧ part = doubled front ++ half ∧ ∀ c ∈ half, c = '"' := by
  induction text generalizing part with
  | nil =>
    obtain rfl := List.prefix_nil.1 cut
    exact ⟨[], [], List.prefix_rfl, rfl, List.forall_mem_nil _⟩
  | cons c rest ih =>
    have nothing : [] <+: c :: rest := List.nil_prefix
    by_cases quote : c = '"'
    · rw [quote] at nothing ⊢
      rw [quote, doubled_quote] at cut
      rcases List.prefix_cons_iff.1 cut with rfl | ⟨more, rfl, behind⟩
      · exact ⟨[], [], nothing, rfl, List.forall_mem_nil _⟩
      · rcases List.prefix_cons_iff.1 behind with rfl | ⟨part, rfl, later⟩
        · exact ⟨[], ['"'], nothing, rfl, by simp⟩
        · obtain ⟨front, half, begins, rfl, quotes⟩ := ih later
          exact ⟨'"' :: front, half, List.prefix_cons_inj _ |>.2 begins, rfl, quotes⟩
    · rw [doubled_cons quote] at cut
      rcases List.prefix_cons_iff.1 cut with rfl | ⟨part, rfl, later⟩
      · exact ⟨[], [], nothing, rfl, List.forall_mem_nil _⟩
      · obtain ⟨front, half, begins, rfl, quotes⟩ := ih later
        refine ⟨c :: front, half, List.prefix_cons_inj _ |>.2 begins, ?_, quotes⟩
        rw [doubled_cons quote, List.cons_append]

theorem head?_doubled {text : Text} (opens : text.head? = some '\x7b') :
    (doubled text).head? = some '\x7b' := by
  obtain ⟨rest, rfl⟩ := List.head?_eq_some_iff.1 opens
  rfl

theorem getLast?_doubled {text : Text} (closes : text.getLast? = some '\x7d') :
    (doubled text).getLast? = some '\x7d' := by
  obtain ⟨inner, rfl⟩ := List.getLast?_eq_some_iff.1 closes
  rw [doubled_append]
  exact List.getLast?_concat ..

theorem lastDoubled_append {b : Text} (h : '"' ∈ b) (a : Text) :
    lastDoubled (a ++ b) = a ++ lastDoubled b := by
  induction a with
  | nil => rfl
  | cons c rest ih => simp [lastDoubled, ih, h]

theorem lastDoubled_last {b : Text} (h : '"' ∉ b) (a : Text) :
    lastDoubled (a ++ '"' :: b) = a ++ '"' :: '"' :: b := by
  rw [lastDoubled_append (List.mem_cons_self ..)]
  simp [lastDoubled, h]

theorem partner?_cons {c : Char} (other : c ≠ '"') (rest : Text) :
    partner? (c :: rest) = if c = '\n' then none
      else (partner? rest).map fun (content, after) => (c :: content, after) := by
  rw [partner?]
  exact fun _ same _ => other same

/-- A doubled quote on the same line is found behind what holds no quote. -/
theorem partner?_append {content : Text} (bare : '"' ∉ content) (line : '\n' ∉ content)
    (after : Text) : partner? (content ++ '"' :: '"' :: after) = some (content, after) := by
  induction content with
  | nil => rfl
  | cons c rest ih =>
    simp only [List.mem_cons, not_or] at bare line
    rw [List.cons_append, partner?_cons (Ne.symm bare.1), if_neg (Ne.symm line.1),
      ih bare.2 line.2]
    rfl

theorem partner?_of_not_mem {text : Text} (bare : '"' ∉ text) : partner? text = none := by
  induction text with
  | nil => rfl
  | cons c rest ih =>
    simp only [List.mem_cons, not_or] at bare
    rw [partner?_cons (Ne.symm bare.1), ih bare.2]
    simp

theorem collapse_cons {c : Char} (other : c ≠ '"') (rest : Text) :
    collapse (c :: rest) = c :: collapse rest := by
  rw [collapse]
  exact fun _ same _ => other same

theorem collapse_append {plain : Text} (bare : '"' ∉ plain) (rest : Text) :
    collapse (plain ++ rest) = plain ++ collapse rest := by
  induction plain with
  | nil => rfl
  | cons c plain ih =>
    simp only [List.mem_cons, not_or] at bare
    rw [List.cons_append, collapse_cons (Ne.symm bare.1), ih bare.2]
    rfl

theorem collapse_of_not_mem {text : Text} (bare : '"' ∉ text) : collapse text = text := by
  rw [← List.append_nil text, collapse_append bare]
  simp [collapse]

theorem collapse_pair {content : Text} (bare : '"' ∉ content) (line : '\n' ∉ content)
    (after : Text) :
    collapse ('"' :: '"' :: (content ++ '"' :: '"' :: after)) =
      '"' :: content ++ '"' :: collapse after := by
  rw [collapse, partner?_append bare line]

theorem collapse_alone {text : Text} (bare : '"' ∉ text) :
    collapse ('"' :: '"' :: text) = '"' :: '"' :: text := by
  rw [collapse, partner?_of_not_mem bare]
  cases text with
  | nil => simp [collapse]
  | cons c rest =>
    have other : c ≠ '"' := fun same => bare (by simp [same])
    simp only
    rw [collapse, collapse_of_not_mem bare]
    intro _ _ same
    exact other (List.cons.inj same).1

/-- Induction over the quotes of a text, two at a time as the repair takes them. -/
theorem quote_pairs_induction {motive : Text → Prop}
    (none : ∀ plain, '"' ∉ plain → motive plain)
    (one : ∀ before behind, '"' ∉ before → '"' ∉ behind → motive (before ++ '"' :: behind))
    (two : ∀ before within rest, '"' ∉ before → '"' ∉ within → motive rest →
      motive (before ++ '"' :: (within ++ '"' :: rest)))
    (text : Text) : motive text := by
  induction size : text.length using Nat.strong_induction_on generalizing text with
  | _ n ih =>
    by_cases quoted : '"' ∈ text
    · obtain ⟨before, behind, rfl, bare⟩ := List.eq_append_cons_of_mem quoted
      by_cases more : '"' ∈ behind
      · obtain ⟨within, rest, rfl, plain⟩ := List.eq_append_cons_of_mem more
        have shorter : rest.length < n := by
          simp only [List.length_append, List.length_cons] at size
          omega
        exact two before within rest bare plain (ih _ shorter rest rfl)
      · exact one before behind bare more
    · exact none text quoted

/-- On one line the repair undoes the doubling of an even number of quotes, and of an odd
number all but the last. -/
theorem collapse_doubled {text : Text} (line : '\n' ∉ text) :
    collapse (doubled text) = if Even (text.count '"') then text else lastDoubled text := by
  induction text using quote_pairs_induction with
  | none plain bare =>
    rw [doubled_of_not_mem bare, collapse_of_not_mem bare, List.count_eq_zero.2 bare,
      if_pos (by decide)]
  | one before behind bare last =>
    have count : (before ++ '"' :: behind).count '"' = 1 := by
      simp [List.count_append, List.count_eq_zero.2 bare, List.count_eq_zero.2 last]
    rw [count, if_neg (by decide), lastDoubled_last last, doubled_append, doubled_quote,
      doubled_of_not_mem bare, doubled_of_not_mem last, collapse_append bare, collapse_alone last]
  | two before within rest bare plain ih =>
    simp only [List.mem_append, List.mem_cons, not_or] at line
    have count : (before ++ '"' :: (within ++ '"' :: rest)).count '"' = rest.count '"' + 2 := by
      simp [List.count_append, List.count_eq_zero.2 bare, List.count_eq_zero.2 plain]
    have pair : Even 2 := by decide
    have parity : Even (rest.count '"' + 2) ↔ Even (rest.count '"') := by
      simp [Nat.even_add, pair]
    rw [doubled_append, doubled_quote, doubled_of_not_mem bare, collapse_append bare,
      doubled_append, doubled_quote, doubled_of_not_mem plain,
      collapse_pair plain line.2.2.1, ih line.2.2.2.2, count]
    simp only [parity]
    split
    next => simp
    next odd =>
      -- The rest is odd as well, so the quote that stays doubled is found there.
      have left : '"' ∈ rest := by
        by_contra none
        exact odd (by simp [List.count_eq_zero.2 none])
      have whole : before ++ '"' :: (within ++ '"' :: rest) =
          (before ++ '"' :: within ++ ['"']) ++ rest := by simp
      rw [whole, lastDoubled_append left]
      simp

theorem shown_doubled {text : Text} (h : ['"', 'i', 'd', '"'] <:+: text) :
    shown (doubled text) = true := by
  obtain ⟨before, behind, rfl⟩ := h
  refine (Text.occurs_iff _ _).2 ⟨doubled before, doubled behind, ?_⟩
  simp [doubled, telltale]

theorem repair_of_doubled {text : Text} (line : '\n' ∉ text)
    (keyed : ['"', 'i', 'd', '"'] <:+: text) :
    repair (doubled text) = if Even (text.count '"') then text else lastDoubled text := by
  rw [repair, if_pos (shown_doubled keyed), collapse_doubled line]

/-- Of one line that shows the key `id`, written with every quote doubled, the repair makes the
line itself exactly if its quotes are even in number. If they are odd the last of them stays
doubled, and nothing else is changed. -/
theorem repair_doubled {text : Text} (line : '\n' ∉ text)
    (keyed : ['"', 'i', 'd', '"'] <:+: text) :
    (repair (doubled text) = text ↔ Even (text.count '"')) ∧
      (Odd (text.count '"') → ∃ before behind, text = before ++ '"' :: behind ∧ '"' ∉ behind ∧
        repair (doubled text) = before ++ '"' :: '"' :: behind) := by
  obtain ⟨before, behind, split, last⟩ := exists_last (keyed.subset List.mem_cons_self)
  have left : ¬ Even (text.count '"') →
      repair (doubled text) = before ++ '"' :: '"' :: behind := by
    intro odd
    rw [repair_of_doubled line keyed, if_neg odd, split, lastDoubled_last last]
  refine ⟨⟨fun same => ?_, fun even => ?_⟩, fun odd => ⟨before, behind, split, last, ?_⟩⟩
  · by_contra odd
    -- One quote too many makes the text longer than it was.
    have longer := congrArg List.length ((left odd).symm.trans (same.trans split))
    simp at longer
  · rw [repair_of_doubled line keyed, if_pos even]
  · exact left (Nat.not_even_iff_odd.2 odd)

/-- An empty value, which is two doubled quotes in a row, and an escaped quote, which makes the
number of quotes odd. -/
theorem repair_doubled_escaped_quote :
    let text := "\x7b\"\":\"\",\"id\":\"a\\\"\"\x7d".toList
    '\n' ∉ text ∧ ['"', 'i', 'd', '"'] <:+: text ∧ Odd (text.count '"') ∧
      repair (doubled text) = "\x7b\"\":\"\",\"id\":\"a\\\"\"\"\x7d".toList := by
  intro text
  have line : '\n' ∉ text := by decide
  have keyed : ['"', 'i', 'd', '"'] <:+: text := ⟨text.take 7, text.drop 11, by decide⟩
  have odd : Odd (text.count '"') := by decide
  obtain ⟨before, behind, split, last, repaired⟩ := (repair_doubled line keyed).2 odd
  refine ⟨line, keyed, odd, ?_⟩
  rw [repaired, ← lastDoubled_last last, ← split]
  decide

end OrderReplay.Payload.DoubledQuotes
