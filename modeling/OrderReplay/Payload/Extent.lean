import OrderReplay.Text.Basic

/-! Where the payload of a log line lies. Braces are not balanced: two objects on one
line, or text between them, make one extent, which is then not read as an object. -/
namespace OrderReplay.Payload

/-- A way of finding the payload in a line. -/
abbrev Extent := Text → Option Text

def throughLast (mark : Char) : Text → Option Text
  | [] => none
  | c :: rest =>
    match throughLast mark rest with
    | some kept => some (c :: kept)
    | none => if c = mark then some [c] else none

/-- From the first opening brace through the last closing one behind it. -/
def outerBraces : Extent := fun line => throughLast '\x7d' (line.dropWhile (· ≠ '\x7b'))

/-- The text behind the last occurrence of a separator. An empty separator occurs last
at the end. -/
def afterLast (separator : Text) : Extent
  | [] => if separator.isEmpty then some [] else none
  | c :: rest =>
    match afterLast separator rest with
    | some found => some found
    | none =>
      if separator.isPrefixOf (c :: rest) then some ((c :: rest).drop separator.length) else none

theorem throughLast_eq_none_iff (mark : Char) (text : Text) :
    throughLast mark text = none ↔ mark ∉ text := by
  induction text with
  | nil => simp [throughLast]
  | cons c rest ih =>
    cases h : throughLast mark rest with
    | some kept =>
      have : mark ∈ rest := by
        rcases Decidable.em (mark ∈ rest) with hm | hm
        · exact hm
        · rw [ih.2 hm] at h; cases h
      simp [throughLast, h, this]
    | none =>
      have := ih.1 h
      by_cases hc : c = mark
      · simp [throughLast, h, hc]
      · have hc' : mark ≠ c := fun e => hc e.symm
        simp [throughLast, h, this, hc, hc']

end OrderReplay.Payload
