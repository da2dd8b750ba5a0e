import OrderReplay.Text.Basic

/-! Payloads in which every quote was written twice. A doubled key `id` gives them
away; then each pair of doubled quotes on one line becomes a pair of single ones. A
doubled quote that finds no partner before the line ends stays as it is. -/
namespace OrderReplay.Payload.DoubledQuotes

/-- The key `id` with its quotes doubled. -/
def telltale : Text := ['"', '"', 'i', 'd', '"', '"']

def shown (payload : Text) : Bool := Text.occurs telltale payload

/-- What stands before the next doubled quote of the line, and what behind it. -/
def partner? : Text → Option (Text × Text)
  | '"' :: '"' :: rest => some ([], rest)
  | c :: rest =>
    if c = '\n' then none else (partner? rest).map fun (content, after) => (c :: content, after)
  | [] => none

theorem partner?_length {text content after : Text} (h : partner? text = some (content, after)) :
    after.length + content.length + 2 = text.length := by
  fun_induction partner? text generalizing content with
  | case1 rest => simp at h; obtain ⟨rfl, rfl⟩ := h; simp
  | case2 => simp at h
  | case3 c rest _ _ ih =>
    simp only [Option.map_eq_some_iff] at h
    obtain ⟨⟨content', after'⟩, found, eq⟩ := h
    simp only [Prod.mk.injEq] at eq
    obtain ⟨rfl, rfl⟩ := eq
    have := ih found
    simp only [List.length_cons]
    omega
  | case4 => simp at h

/-- The text with single quotes in place of every pair of doubled ones, found from
left to right: each doubled quote is paired with the nearest behind it. -/
def collapse : Text → Text
  | '"' :: '"' :: rest =>
    match _found : partner? rest with
    | some (content, after) => '"' :: content ++ '"' :: collapse after
    | none => '"' :: collapse ('"' :: rest)
  | c :: rest => c :: collapse rest
  | [] => []
termination_by text => text.length
decreasing_by
  · have := partner?_length _found
    simp_wf
    omega
  · simp_wf
  · simp_wf

def repair (payload : Text) : Text := if shown payload then collapse payload else payload

end OrderReplay.Payload.DoubledQuotes
