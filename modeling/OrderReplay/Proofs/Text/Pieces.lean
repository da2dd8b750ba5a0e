import OrderReplay.Text.Basic

/-! Texts cut at a mark: once at the first one, and at every one. -/
namespace OrderReplay.Text
variable {mark : Char}

/-! ### At the first mark -/

@[simp] theorem cut_nil : cut mark [] = ([], none) := rfl

@[simp] theorem cut_mark (rest : Text) : cut mark (mark :: rest) = ([], some rest) := by
  simp [cut]

theorem cut_cons {c : Char} (other : c ≠ mark) (rest : Text) :
    cut mark (c :: rest) = (c :: (cut mark rest).1, (cut mark rest).2) := by
  simp only [cut, List.dropWhile_cons, List.takeWhile_cons, ne_eq, other, not_false_eq_true,
    decide_true, if_true]
  split <;> rfl

theorem cut_append {front : Text} (plain : mark ∉ front) (text : Text) :
    cut mark (front ++ text) = (front ++ (cut mark text).1, (cut mark text).2) := by
  induction front with
  | nil => rfl
  | cons c front ih =>
    simp only [List.mem_cons, not_or] at plain
    rw [List.cons_append, cut_cons (Ne.symm plain.1), ih plain.2]
    rfl

theorem cut_plain {text : Text} (plain : mark ∉ text) : cut mark text = (text, none) := by
  simpa using cut_append plain []

theorem cut_front (mark : Char) (text : Text) :
    (cut mark text).1.Sublist text ∧ mark ∉ (cut mark text).1 := by
  induction text with
  | nil => simp
  | cons c rest ih =>
    by_cases here : c = mark
    · subst here
      simp
    · rw [cut_cons here]
      exact ⟨ih.1.cons_cons c, by simp [ih.2, Ne.symm here]⟩

/-! ### At every mark -/

/-- Induction over the marks, from the last one to the first. -/
theorem marks_induction {α : Type} [DecidableEq α] (mark : α) {motive : List α → Prop}
    (plain : ∀ front, mark ∉ front → motive front)
    (first : ∀ front rest, mark ∉ front → motive rest → motive (front ++ mark :: rest))
    (text : List α) : motive text := by
  induction size : text.length using Nat.strongRecOn generalizing text with
  | _ n ih =>
    by_cases present : mark ∈ text
    · obtain ⟨front, rest, rfl, clear⟩ := List.eq_append_cons_of_mem present
      have shorter : rest.length < n := by
        rw [← size, List.length_append, List.length_cons]
        omega
      exact first front rest clear (ih _ shorter rest rfl)
    · exact plain text present

theorem pieces_mark (rest : Text) : pieces mark (mark :: rest) = [] :: pieces mark rest := by
  simp [pieces]

theorem pieces_ne_nil (mark : Char) (text : Text) : pieces mark text ≠ [] := by
  cases text with
  | nil => simp [pieces]
  | cons c rest =>
    rw [pieces]
    split
    · simp
    · split <;> simp

theorem pieces_cons {c : Char} (other : c ≠ mark) (rest : Text) :
    ∃ piece others, pieces mark rest = piece :: others ∧
      pieces mark (c :: rest) = (c :: piece) :: others := by
  obtain ⟨piece, others, shape⟩ := List.exists_cons_of_ne_nil (pieces_ne_nil mark rest)
  exact ⟨piece, others, shape, by simp [pieces, other, shape]⟩

theorem pieces_append {front : Text} (plain : mark ∉ front) (rest : Text) :
    pieces mark (front ++ mark :: rest) = front :: pieces mark rest := by
  induction front with
  | nil => exact pieces_mark rest
  | cons c front ih =>
    simp only [List.mem_cons, not_or] at plain
    obtain ⟨piece, others, shape, whole⟩ := pieces_cons (Ne.symm plain.1) (front ++ mark :: rest)
    rw [ih plain.2, List.cons.injEq] at shape
    rw [List.cons_append, whole, shape.1, shape.2]

theorem pieces_plain {text : Text} (plain : mark ∉ text) : pieces mark text = [text] := by
  induction text with
  | nil => rfl
  | cons c rest ih =>
    simp only [List.mem_cons, not_or] at plain
    obtain ⟨piece, others, shape, whole⟩ := pieces_cons (Ne.symm plain.1) rest
    rw [ih plain.2, List.cons.injEq] at shape
    rw [whole, ← shape.1, ← shape.2]

theorem mem_pieces {text piece : Text} (member : piece ∈ pieces mark text) :
    piece.Sublist text ∧ mark ∉ piece := by
  induction text generalizing piece with
  | nil =>
    rw [List.mem_singleton.1 member]
    simp
  | cons c rest ih =>
    by_cases here : c = mark
    · rw [here, pieces_mark, List.mem_cons] at member
      rcases member with rfl | later
      · simp
      · exact ⟨(ih later).1.cons c, (ih later).2⟩
    · obtain ⟨first, others, shape, whole⟩ := pieces_cons here rest
      rw [whole, List.mem_cons] at member
      rcases member with rfl | later
      · have inside := ih (show first ∈ pieces mark rest by simp [shape])
        exact ⟨inside.1.cons_cons c, by simp [inside.2, Ne.symm here]⟩
      · have inside := ih (show piece ∈ pieces mark rest by simp [shape, later])
        exact ⟨inside.1.cons c, inside.2⟩

end OrderReplay.Text
