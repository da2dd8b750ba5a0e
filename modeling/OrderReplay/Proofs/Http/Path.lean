import OrderReplay.Http.Path
import OrderReplay.Proofs.Http.Percent
import OrderReplay.Proofs.Text.Pieces

/-! Where the segments of a resolved path come from. Reading a segment takes back at most
one of those before it and adds at most one, which is empty or is that segment, encoded.
A shown path gives its segments back, as none of them holds a slash. -/
namespace OrderReplay.Http.Path

/-- What a segment becomes when the path keeps it, or when it is a dot segment at the
end. -/
def Sprung (texts : List Text) (segment : Text) : Prop :=
  segment = [] ∨ ∃ text ∈ texts, segment = Percent.encode Percent.path text

/-- Segments, the newest first, that have grown from others by reading `texts`: those that
are left of the others, below new ones. -/
def GrownFrom (base texts read : List Text) : Prop :=
  ∃ added left, read = added ++ left ∧ left <:+ base ∧ ∀ segment ∈ added, Sprung texts segment

variable {base texts read : List Text} {segment : Text}

theorem GrownFrom.cons (grown : GrownFrom base texts read) (sprung : Sprung texts segment) :
    GrownFrom base texts (segment :: read) := by
  obtain ⟨added, left, rfl, suffix, origin⟩ := grown
  exact ⟨segment :: added, left, rfl, suffix, List.forall_mem_cons.2 ⟨sprung, origin⟩⟩

theorem GrownFrom.back (grown : GrownFrom base texts read) :
    GrownFrom base texts (back read) := by
  obtain ⟨added, left, rfl, suffix, origin⟩ := grown
  match added, left with
  | [], [] => exact ⟨[], [], rfl, suffix, origin⟩
  | [], newest :: others =>
    by_cases drive : beginsWithDrive newest = true
    · exact ⟨[], newest :: others, by simp [Path.back, drive], suffix, origin⟩
    · exact ⟨[], others, by simp [Path.back, drive], (List.suffix_cons _ _).trans suffix, origin⟩
  | newest :: others, left =>
    by_cases drive : beginsWithDrive newest = true
    · exact ⟨newest :: others, left, by simp [Path.back, drive], suffix, origin⟩
    · exact ⟨others, left, by simp [Path.back, drive], suffix,
        (List.forall_mem_cons.1 origin).2⟩

theorem GrownFrom.push (grown : GrownFrom base texts read) (member : segment ∈ texts)
    (last : Bool) : GrownFrom base texts (push false read segment last) := by
  unfold Path.push
  split
  · split
    · exact grown.back.cons (.inl rfl)
    · exact grown.back
  · split
    · split
      · exact grown.cons (.inl rfl)
      · exact grown
    · exact grown.cons (.inr ⟨segment, member, by simp [kept]⟩)

theorem resolve_cons {rest : List Text} (more : rest ≠ []) (ofFile : Bool) :
    resolve ofFile read (segment :: rest) =
      resolve ofFile (push ofFile read segment false) rest := by
  cases rest with
  | nil => exact absurd rfl more
  | cons => rfl

theorem GrownFrom.resolve {rest : List Text} (grown : GrownFrom base texts read)
    (within : rest ⊆ texts) : GrownFrom base texts (resolve false read rest).reverse := by
  induction rest generalizing read with
  | nil =>
    rw [Path.resolve, List.reverse_reverse]
    exact grown
  | cons segment rest ih =>
    obtain ⟨first, others⟩ := List.cons_subset.1 within
    cases rest with
    | nil =>
      rw [Path.resolve, List.reverse_reverse]
      exact grown.push first true
    | cons next rest => exact ih (grown.push first false) others

theorem resolve_grownFrom (base texts : List Text) :
    GrownFrom base texts (resolve false base texts).reverse :=
  GrownFrom.resolve ⟨[], base, rfl, List.suffix_refl _, by simp⟩ (List.Subset.refl _)

theorem mem_resolve (member : segment ∈ resolve false base texts) :
    segment ∈ base ∨ Sprung texts segment := by
  obtain ⟨added, left, shape, suffix, origin⟩ := resolve_grownFrom base texts
  rw [← List.mem_reverse, shape, List.mem_append] at member
  rcases member with new | old
  · exact .inr (origin segment new)
  · exact .inl (suffix.mem old)

/-- Where a path ends behind the segments that it began with, its last segment is new. -/
theorem resolve_last {front : List Text}
    (shape : resolve false base texts = front ++ [segment]) (long : base.length ≤ front.length) :
    Sprung texts segment := by
  obtain ⟨added, left, parts, suffix, origin⟩ := resolve_grownFrom base texts
  rw [shape, List.reverse_append, List.reverse_singleton] at parts
  have lengths := congrArg List.length parts
  have shorter := suffix.length_le
  simp only [List.length_append, List.length_reverse, List.length_singleton] at lengths
  cases added with
  | nil => simp only [List.length_nil] at lengths; omega
  | cons newest others =>
    simp only [List.cons_append, List.cons.injEq] at parts
    exact parts.1 ▸ origin newest (by simp)

/-- A single segment that is no dot segment is added as it is, encoded. -/
theorem resolve_plain (dot : isDot segment = false) (doubleDot : isDoubleDot segment = false) :
    resolve false base [segment] = base.reverse ++ [Percent.encode Percent.path segment] := by
  simp [resolve, push, dot, doubleDot, kept]

/-- A single dot segment leaves an empty one. -/
theorem resolve_dots (base : List Text) (dots : isDot segment = true ∨ isDoubleDot segment = true) :
    ∃ front, resolve false base [segment] = front ++ [[]] := by
  unfold resolve push
  split
  · exact ⟨_, List.reverse_cons⟩
  · rename_i single
    have dot : isDot segment = true := dots.resolve_right single
    rw [if_pos dot]
    exact ⟨_, List.reverse_cons⟩

/-! ### Shown paths -/

theorem pieces_shown : ∀ segments : List Text, (∀ segment ∈ segments, '/' ∉ segment) →
    Text.pieces '/' (shown segments) = [] :: segments
  | [], _ => rfl
  | [segment], whole => by
    have plain := whole segment (by simp)
    simp only [shown, List.flatMap_cons, List.flatMap_nil, List.append_nil]
    rw [Text.pieces_mark, Text.pieces_plain plain]
  | segment :: next :: rest, whole => by
    have plain := whole segment (by simp)
    have later := pieces_shown (next :: rest) fun s member => whole s (by simp [member])
    have shape : shown (segment :: next :: rest) =
        '/' :: (segment ++ '/' :: (next ++ shown rest)) := by
      simp [shown]
    have tail : shown (next :: rest) = '/' :: (next ++ shown rest) := by simp [shown]
    rw [tail, Text.pieces_mark, List.cons.injEq] at later
    rw [shape, Text.pieces_mark, Text.pieces_append plain, later.2]

theorem shown_injective {a b : List Text} (plain : ∀ segment ∈ a, '/' ∉ segment)
    (other : ∀ segment ∈ b, '/' ∉ segment) (same : shown a = shown b) : a = b := by
  have cut := congrArg (Text.pieces '/') same
  rw [pieces_shown a plain, pieces_shown b other, List.cons.injEq] at cut
  exact cut.2

theorem Sprung.plain {mark : Char} (sprung : Sprung texts segment)
    (free : (∀ text ∈ texts, mark ∉ text) ∨ Percent.path mark = true)
    (sign : mark ≠ '%' ∧ Percent.isHex mark = false) : mark ∉ segment := by
  rcases sprung with rfl | ⟨text, member, rfl⟩
  · simp
  · intro inside
    rcases Percent.mem_encode inside with percent | hex | ⟨own, unreserved⟩
    · exact sign.1 percent
    · rw [sign.2] at hex; cases hex
    · rcases free with free | held
      · exact free text member own
      · rw [held] at unreserved; cases unreserved

/-! ### Dot segments -/

theorem toLower_eq {c d : Char} (mark : isAlpha d = false) (same : c.toLower = d) : c = d := by
  by_cases upper : c.val ≥ 'A'.val ∧ c.val ≤ 'Z'.val
  · have letter := Text.forall_below (fun d => 65 ≤ d.toNat → isAlpha d.toLower = true)
      (by decide : ∀ n < 91, _) (Nat.lt_succ_of_le upper.2) upper.1
    rw [same, mark] at letter
    cases letter
  · unfold Char.toLower at same
    rwa [dif_neg upper] at same

theorem not_mem_lower (free : '%' ∉ segment) : '%' ∉ Text.lower segment := by
  intro member
  obtain ⟨c, inside, same⟩ := List.mem_map.1 member
  exact free (toLower_eq (by decide) same ▸ inside)

theorem isDot_plain (free : '%' ∉ segment) (dot : isDot segment = true) : segment = ['.'] := by
  have clear := not_mem_lower free
  unfold isDot at dot
  split at dot
  · rename_i shape
    obtain ⟨c, rfl, same⟩ := List.map_eq_singleton_iff.1 shape
    rw [toLower_eq (by decide) same]
  · rename_i shape
    simp [shape] at clear
  · cases dot

theorem isDoubleDot_plain (free : '%' ∉ segment) (dots : isDoubleDot segment = true) :
    segment = ['.', '.'] := by
  have clear := not_mem_lower free
  unfold isDoubleDot at dots
  split at dots
  · rename_i shape
    obtain ⟨c, rest, rfl, first, others⟩ := List.map_eq_cons_iff.1 shape
    obtain ⟨d, rfl, second⟩ := List.map_eq_singleton_iff.1 others
    rw [toLower_eq (by decide) first, toLower_eq (by decide) second]
  · rename_i shape
    simp [shape] at clear
  · rename_i shape
    simp [shape] at clear
  · rename_i shape
    simp [shape] at clear
  · cases dots

end OrderReplay.Http.Path
