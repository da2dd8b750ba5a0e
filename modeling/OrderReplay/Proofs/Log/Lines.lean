import OrderReplay.Log.Reader

/-! The lines of a log said of its octets alone, and the reader's hand-outs measured
against them. How the octets are cut into portions plays no part. The first read error
ends the account; what stands behind it is left as it is. -/
namespace OrderReplay.Log

def Stream.octets : Stream → List UInt8
  | [] => []
  | .octets portion :: rest => portion ++ octets rest
  | .fault _ :: _ => []

def Stream.fault? : Stream → Option Text
  | [] => none
  | .octets _ :: rest => fault? rest
  | .fault cause :: _ => some cause

def Stream.beyond : Stream → Stream
  | [] => []
  | .octets _ :: rest => beyond rest
  | .fault _ :: later => later

theorem Stream.beyond_of_whole {stream : Stream} (whole : stream.fault? = none) :
    stream.beyond = [] := by
  induction stream with
  | nil => rfl
  | cons arrival rest ih =>
    cases arrival with
    | octets portion => exact ih whole
    | fault cause => cases whole

def terminated (octets : List UInt8) : List Text :=
  (octets.splitOn lineFeed).dropLast.map fun piece => Text.Utf8.decode (chomp piece)

/-- What stands behind the last line feed is a line too, unless it is empty; it keeps a
carriage return at its end. -/
def leftover (octets : List UInt8) : List Text :=
  match (octets.splitOn lineFeed).getLastD [] with
  | [] => []
  | rest => [Text.Utf8.decode rest]

/-- Texts of the lines before the first read error, which takes an unterminated line with
it. -/
def Stream.texts (stream : Stream) : List Text :=
  terminated stream.octets ++ if stream.fault?.isNone then leftover stream.octets else []

theorem terminated_of_not_mem {octets : List UInt8} (h : lineFeed ∉ octets) :
    terminated octets = [] := by
  simp [terminated, List.splitOn_eq_singleton h]

theorem leftover_of_not_mem {octets : List UInt8} (h : lineFeed ∉ octets) :
    leftover octets = if octets.isEmpty then [] else [Text.Utf8.decode octets] := by
  simp only [leftover, List.splitOn_eq_singleton h, List.getLastD_cons, List.getLastD_nil]
  cases octets <;> rfl

theorem terminated_append {octets : List UInt8} (h : lineFeed ∉ octets) (rest : List UInt8) :
    terminated (octets ++ lineFeed :: rest) =
      Text.Utf8.decode (chomp octets) :: terminated rest := by
  simp only [terminated, List.splitOn_append_cons_self_of_not_mem h,
    List.dropLast_cons_of_ne_nil (List.splitOn_ne_nil _ _), List.map_cons]

theorem length_terminated (octets : List UInt8) :
    (terminated octets).length = octets.count lineFeed := by
  induction feeds : octets.count lineFeed generalizing octets with
  | zero => rw [terminated_of_not_mem (List.count_eq_zero.1 feeds), List.length_nil]
  | succ n ih =>
    have member : lineFeed ∈ octets := List.count_pos_iff.1 (by omega)
    obtain ⟨line, after, rfl, clean⟩ := List.eq_append_cons_of_mem member
    have fewer : after.count lineFeed = n := by
      simpa [List.count_eq_zero.2 clean] using feeds
    rw [terminated_append clean, List.length_cons, ih after fewer]

theorem leftover_append {octets : List UInt8} (h : lineFeed ∉ octets) (rest : List UInt8) :
    leftover (octets ++ lineFeed :: rest) = leftover rest := by
  have nonempty := List.splitOn_ne_nil lineFeed rest
  simp only [leftover, List.splitOn_append_cons_self_of_not_mem h, List.getLastD_cons]
  rw [List.getLastD_eq_getLast?, List.getLastD_eq_getLast?]
  rw [List.getLast?_eq_some_getLast nonempty]
  rfl

theorem differs_of_not_mem {octets : List UInt8} (h : lineFeed ∉ octets) :
    ∀ octet ∈ octets, decide (octet ≠ lineFeed) = true := by
  intro octet member
  exact decide_eq_true fun same => h (same ▸ member)

theorem takeWhile_line {line : List UInt8} (h : lineFeed ∉ line) (after : List UInt8) :
    (line ++ lineFeed :: after).takeWhile (· ≠ lineFeed) = line := by
  rw [List.takeWhile_append_of_pos (differs_of_not_mem h)]
  simp

theorem dropWhile_line {line : List UInt8} (h : lineFeed ∉ line) (after : List UInt8) :
    (line ++ lineFeed :: after).dropWhile (· ≠ lineFeed) = lineFeed :: after := by
  rw [List.dropWhile_append_of_pos (differs_of_not_mem h)]
  simp

theorem dropWhile_of_not_mem {octets : List UInt8} (h : lineFeed ∉ octets) :
    octets.dropWhile (· ≠ lineFeed) = [] := by
  rw [← List.append_nil octets, List.dropWhile_append_of_pos (differs_of_not_mem h)]
  rfl

/-- Octets without a line feed lie wholly within the first line. -/
theorem line_of_not_mem {portion others line after : List UInt8} (h : lineFeed ∉ portion)
    (split : portion ++ others = line ++ lineFeed :: after) :
    ∃ tail, line = portion ++ tail ∧ others = tail ++ lineFeed :: after := by
  rcases List.append_eq_append_iff.1 split with ⟨tail, whole, behind⟩ | ⟨tail, whole, behind⟩
  · exact ⟨tail, whole, behind⟩
  · cases tail with
    | nil => exact ⟨[], by simpa using whole.symm, behind.symm⟩
    | cons feed rest =>
      have : lineFeed = feed := (List.cons.inj behind).1
      exact absurd (by simp [whole, this]) h

/-- A line that a line feed ends is gathered from any number of portions. -/
theorem gather_terminated {stream : Stream} {line after : List UInt8} (clean : lineFeed ∉ line)
    (split : stream.octets = line ++ lineFeed :: after) (pending : List UInt8) :
    ∃ rest, gather pending stream = (.terminated (pending ++ line), rest) ∧
      rest.octets = after ∧ rest.fault? = stream.fault? ∧ rest.beyond = stream.beyond := by
  induction stream generalizing pending line with
  | nil => simp [Stream.octets] at split
  | cons arrival rest ih =>
    cases arrival with
    | fault cause => simp [Stream.octets] at split
    | octets portion =>
      simp only [Stream.octets] at split
      by_cases member : lineFeed ∈ portion
      · obtain ⟨first, others, rfl, fresh⟩ := List.eq_append_cons_of_mem member
        have whole : first ++ lineFeed :: (others ++ Stream.octets rest) =
            line ++ lineFeed :: after := by
          rw [← split, List.append_assoc, List.cons_append]
        have same : first = line := by
          rw [← takeWhile_line fresh (others ++ Stream.octets rest), whole, takeWhile_line clean]
        subst same
        refine ⟨.octets others :: rest, ?_, ?_, rfl, rfl⟩
        · simp only [gather, dropWhile_line fresh, takeWhile_line fresh]
        · simpa [Stream.octets] using whole
      · obtain ⟨tail, rfl, behind⟩ := line_of_not_mem member split
        have fresh : lineFeed ∉ tail := fun h => clean (List.mem_append_right portion h)
        obtain ⟨left, found, octets, same⟩ := ih fresh behind (pending ++ portion)
        refine ⟨left, ?_, octets, same⟩
        simp only [gather, dropWhile_of_not_mem member, found, List.append_assoc]

theorem gather_fault {stream : Stream} {cause : Text} (h : lineFeed ∉ stream.octets)
    (broken : stream.fault? = some cause) (pending : List UInt8) :
    gather pending stream = (.fault cause, stream.beyond) := by
  induction stream generalizing pending with
  | nil => simp [Stream.fault?] at broken
  | cons arrival rest ih =>
    cases arrival with
    | fault first =>
      obtain rfl : first = cause := by simpa [Stream.fault?] using broken
      rfl
    | octets portion =>
      simp only [Stream.octets, List.mem_append, not_or] at h
      simp only [gather, dropWhile_of_not_mem h.1]
      exact ih h.2 broken (pending ++ portion)

theorem gather_end {stream : Stream} (h : lineFeed ∉ stream.octets)
    (whole : stream.fault? = none) (pending : List UInt8) :
    gather pending stream =
      (if (pending ++ stream.octets).isEmpty then .finished
        else .unterminated (pending ++ stream.octets), []) := by
  induction stream generalizing pending with
  | nil => simp [gather, Stream.octets]
  | cons arrival rest ih =>
    cases arrival with
    | fault cause => simp [Stream.fault?] at whole
    | octets portion =>
      simp only [Stream.octets, List.mem_append, not_or] at h
      simp only [gather, dropWhile_of_not_mem h.1, Stream.octets, ← List.append_assoc]
      exact ih h.2 whole (pending ++ portion)

theorem texts_terminated {stream : Stream} {line after : List UInt8} (clean : lineFeed ∉ line)
    (split : stream.octets = line ++ lineFeed :: after) :
    stream.texts = Text.Utf8.decode (chomp line) ::
      (terminated after ++ if stream.fault?.isNone then leftover after else []) := by
  simp only [Stream.texts, split, terminated_append clean, leftover_append clean,
    List.cons_append]

theorem texts_unterminated {stream : Stream} (h : lineFeed ∉ stream.octets) :
    stream.texts = if stream.fault?.isNone ∧ ¬ stream.octets.isEmpty then
      [Text.Utf8.decode stream.octets] else [] := by
  simp only [Stream.texts, terminated_of_not_mem h, leftover_of_not_mem h, List.nil_append]
  cases stream.fault? <;> cases stream.octets <;> simp

namespace Stream

def broken (portions : List (List UInt8)) (cause : Text) (later : Stream) : Stream :=
  portions.map .octets ++ .fault cause :: later

theorem octets_broken (portions : List (List UInt8)) (cause : Text) (later : Stream) :
    (broken portions cause later).octets = portions.flatten := by
  induction portions with
  | nil => rfl
  | cons portion rest ih => exact congrArg (portion ++ ·) ih

theorem fault?_broken (portions : List (List UInt8)) (cause : Text) (later : Stream) :
    (broken portions cause later).fault? = some cause := by
  induction portions with
  | nil => rfl
  | cons portion rest ih => exact ih

/-- Only lines that ended before the break are handed out. -/
theorem texts_broken (portions : List (List UInt8)) (cause : Text) (later : Stream) :
    (broken portions cause later).texts = terminated portions.flatten := by
  simp [texts, octets_broken, fault?_broken]

end Stream

namespace Reader

/-- The reader hands out the lines of its log in order, numbered on from those before. -/
theorem next_line {r : Reader} {text : Text} {more : List Text}
    (h : r.rest.texts = text :: more) :
    ∃ rest, next r = (.line ⟨r.read + 1, text⟩, ⟨rest, r.read + 1⟩) ∧
      rest.texts = more ∧ rest.fault? = r.rest.fault? ∧ rest.beyond = r.rest.beyond := by
  by_cases feed : lineFeed ∈ r.rest.octets
  · obtain ⟨line, after, split, clean⟩ := List.eq_append_cons_of_mem feed
    rw [texts_terminated clean split] at h
    obtain ⟨rfl, rfl⟩ := List.cons.inj h
    obtain ⟨rest, found, octets, fault, beyond⟩ := gather_terminated clean split []
    refine ⟨rest, ?_, ?_, fault, beyond⟩
    · simp only [next, found, List.nil_append]
    · rw [Stream.texts, octets, fault]
  · rw [texts_unterminated feed] at h
    split at h
    next ends =>
      obtain ⟨rfl, rfl⟩ := List.cons.inj h
      have whole := Option.isNone_iff_eq_none.1 ends.1
      refine ⟨[], ?_, by simp [Stream.texts, terminated, leftover, Stream.octets], whole.symm,
        (Stream.beyond_of_whole whole).symm⟩
      simp only [next, gather_end feed whole, List.nil_append, if_neg ends.2]
    next => cases h

/-- Without a line left it stops at the read error, behind which it can read on, or at the
end. -/
theorem next_stop {r : Reader} (h : r.rest.texts = []) :
    next r = (match r.rest.fault? with | some cause => .fault cause | none => .finished,
      ⟨r.rest.beyond, r.read⟩) := by
  by_cases feed : lineFeed ∈ r.rest.octets
  · obtain ⟨line, after, split, clean⟩ := List.eq_append_cons_of_mem feed
    rw [texts_terminated clean split] at h
    cases h
  · rw [texts_unterminated feed] at h
    cases fault : r.rest.fault? with
    | some cause => simp only [next, gather_fault feed fault []]
    | none =>
      have empty : r.rest.octets.isEmpty = true := by
        simpa [fault] using h
      simp only [next, gather_end feed fault, List.nil_append, empty, if_true,
        Stream.beyond_of_whole fault]

end Reader
end OrderReplay.Log
