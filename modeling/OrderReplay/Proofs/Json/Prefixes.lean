import OrderReplay.Proofs.Json.Grammar
import OrderReplay.Proofs.Json.Tokens

/-! Numerals and letters are told from the texts that they begin: of two with something behind
them that ends them, where the texts agree, they agree, and so does what is behind them. -/
namespace OrderReplay.Json

def Heads (p : Char → Prop) (text : Text) : Prop := ∀ c ∈ text.head?, p c

theorem heads_cons {p : Char → Prop} {c : Char} {text : Text} : Heads p (c :: text) ↔ p c := by
  simp [Heads]

theorem Digits.unique {a b s t : Text} (first : Digits a) (second : Digits b)
    (stop : Heads (fun c => Text.digit? c = none) s)
    (stop' : Heads (fun c => Text.digit? c = none) t) (same : a ++ s = b ++ t) :
    a = b ∧ s = t := by
  induction a generalizing b with
  | nil =>
    cases b with
    | nil => exact ⟨rfl, same⟩
    | cons c b =>
      rw [List.nil_append] at same
      rw [same, List.cons_append, heads_cons] at stop
      have digit := (List.forall_mem_cons.1 second).1
      rw [stop] at digit
      cases digit
  | cons c a ih =>
    obtain ⟨here, later⟩ := List.forall_mem_cons.1 first
    cases b with
    | nil =>
      rw [List.nil_append] at same
      rw [← same, List.cons_append, heads_cons] at stop'
      rw [stop'] at here
      cases here
    | cons d b =>
      obtain ⟨rfl, rest⟩ := List.cons.inj same
      obtain ⟨rfl, behind⟩ := ih later (List.forall_mem_cons.1 second).2 rest
      exact ⟨rfl, behind⟩

namespace Numeral

/-- Behind a numeral stands what could not belong to it. -/
abbrev Ends : Text → Prop := Heads fun c => isEnd c = true

theorem not_digit_of_ends {text : Text} (ends : Ends text) :
    Heads (fun c => Text.digit? c = none) text := by
  intro c member
  have here := ends c member
  simp only [isEnd, Bool.and_eq_true, Option.isNone_iff_eq_none] at here
  exact here.1.1

def signText : Option Bool → Text
  | none => []
  | some false => ['+']
  | some true => ['-']

theorem power_text (p : Power) :
    p.text = (if p.capital then 'E' else 'e') :: (signText p.negative? ++ p.digits) := by
  obtain ⟨capital, _ | down, digits⟩ := p
  · rfl
  · cases down <;> rfl

theorem sign_unique {a b : Option Bool} {c d : Char} {u v : Text}
    (first : (Text.digit? c).isSome = true) (second : (Text.digit? d).isSome = true)
    (same : signText a ++ c :: u = signText b ++ d :: v) : a = b ∧ c :: u = d :: v := by
  have plus : (Text.digit? '+').isSome = false := by decide
  have minus : (Text.digit? '-').isSome = false := by decide
  have differ : '+' ≠ '-' := by decide
  rcases a with _ | _ | _ <;> rcases b with _ | _ | _
  all_goals
    simp only [signText, List.nil_append, List.cons_append, List.cons.injEq] at same
  · exact ⟨rfl, by rw [same.1, same.2]⟩
  · simp [same.1, plus] at first
  · simp [same.1, minus] at first
  · simp [← same.1, plus] at second
  · exact ⟨rfl, by rw [same.2.1, same.2.2]⟩
  · exact absurd same.1 differ
  · simp [← same.1, minus] at second
  · exact absurd same.1.symm differ
  · exact ⟨rfl, by rw [same.2.1, same.2.2]⟩

theorem power_unique {p? q? : Option Power} (lawful : ∀ p ∈ p?, p.Lawful)
    (lawful' : ∀ p ∈ q?, p.Lawful) {s t : Text} (ends : Ends s) (ends' : Ends t)
    (same : p?.elim [] Power.text ++ s = q?.elim [] Power.text ++ t) : p? = q? ∧ s = t := by
  have letter (capital : Bool) : isEnd (if capital then 'E' else 'e') = false := by
    cases capital <;> rfl
  cases p? with
  | none =>
    cases q? with
    | none => exact ⟨rfl, same⟩
    | some q =>
      have here : s = q.text ++ t := same
      rw [here, power_text, List.cons_append, Ends, heads_cons, letter] at ends
      cases ends
  | some p =>
    cases q? with
    | none =>
      have here : p.text ++ s = t := same
      rw [← here, power_text, List.cons_append, Ends, heads_cons, letter] at ends'
      cases ends'
    | some q =>
      obtain ⟨all, present⟩ := lawful p rfl
      obtain ⟨all', present'⟩ := lawful' q rfl
      obtain ⟨c, u, shape⟩ := List.exists_cons_of_ne_nil present
      obtain ⟨d, v, shape'⟩ := List.exists_cons_of_ne_nil present'
      have digit : (Text.digit? c).isSome = true := all c (by simp [shape])
      have digit' : (Text.digit? d).isSome = true := all' d (by simp [shape'])
      simp only [Option.elim_some, power_text, List.cons_append, List.append_assoc,
        List.cons.injEq] at same
      obtain ⟨mark, rest⟩ := same
      have capitals : p.capital = q.capital := by
        cases upper : p.capital <;> cases upper' : q.capital <;> simp [upper, upper'] at mark ⊢
      rw [shape, shape', List.cons_append, List.cons_append] at rest
      obtain ⟨signs, rest⟩ := sign_unique digit digit' rest
      rw [← List.cons_append, ← List.cons_append, ← shape, ← shape'] at rest
      obtain ⟨digits, behind⟩ := Digits.unique all all' (not_digit_of_ends ends)
        (not_digit_of_ends ends') rest
      have whole : p = q := by
        cases p
        cases q
        simp only at capitals signs digits
        rw [capitals, signs, digits]
      exact ⟨congrArg some whole, behind⟩

theorem fraction_unique {f? g? : Option Text} (lawful : ∀ f ∈ f?, Digits f)
    (lawful' : ∀ f ∈ g?, Digits f) {s t : Text}
    (ends : Heads (fun c => Text.digit? c = none ∧ c ≠ '.') s)
    (ends' : Heads (fun c => Text.digit? c = none ∧ c ≠ '.') t)
    (same : f?.elim [] ('.' :: ·) ++ s = g?.elim [] ('.' :: ·) ++ t) : f? = g? ∧ s = t := by
  cases f? with
  | none =>
    cases g? with
    | none => exact ⟨rfl, same⟩
    | some g =>
      have here : s = '.' :: (g ++ t) := same
      rw [here, heads_cons] at ends
      exact absurd rfl ends.2
  | some f =>
    cases g? with
    | none =>
      have here : '.' :: (f ++ s) = t := same
      rw [← here, heads_cons] at ends'
      exact absurd rfl ends'.2
    | some g =>
      have rest : f ++ s = g ++ t := (List.cons.inj same).2
      obtain ⟨rfl, behind⟩ := Digits.unique (lawful f rfl) (lawful' g rfl)
        (fun c member => (ends c member).1) (fun c member => (ends' c member).1) rest
      exact ⟨rfl, behind⟩

theorem heads_power (p? : Option Power) {s : Text} (ends : Ends s) :
    Heads (fun c => Text.digit? c = none ∧ c ≠ '.') (p?.elim [] Power.text ++ s) := by
  cases p? with
  | none =>
    intro c member
    have here := ends c member
    simp only [isEnd, Bool.and_eq_true, Option.isNone_iff_eq_none, bne_iff_ne] at here
    exact here.1
  | some p =>
    rw [Option.elim_some, power_text, List.cons_append, heads_cons]
    cases p.capital <;> decide

theorem heads_fraction {f? : Option Text} {s : Text}
    (ends : Heads (fun c => Text.digit? c = none ∧ c ≠ '.') s) :
    Heads (fun c => Text.digit? c = none) (f?.elim [] ('.' :: ·) ++ s) := by
  cases f? with
  | none => exact fun c member => (ends c member).1
  | some f =>
    rw [Option.elim_some, List.cons_append, heads_cons]
    rfl

theorem unsigned_unique {n m : Numeral} (lawful : n.Lawful) (lawful' : m.Lawful) {s t : Text}
    (ends : Ends s) (ends' : Ends t)
    (same : n.whole ++ (n.fraction?.elim [] ('.' :: ·) ++ (n.power?.elim [] Power.text ++ s)) =
      m.whole ++ (m.fraction?.elim [] ('.' :: ·) ++ (m.power?.elim [] Power.text ++ t))) :
    n.whole = m.whole ∧ n.fraction? = m.fraction? ∧ n.power? = m.power? ∧ s = t := by
  have behind := heads_power n.power? ends
  have behind' := heads_power m.power? ends'
  obtain ⟨whole, rest⟩ := Digits.unique lawful.whole lawful'.whole (heads_fraction behind)
    (heads_fraction behind') same
  obtain ⟨fraction, rest⟩ := fraction_unique (fun f member => (lawful.fraction f member).1)
    (fun f member => (lawful'.fraction f member).1) behind behind' rest
  obtain ⟨power, rest⟩ := power_unique lawful.power lawful'.power ends ends' rest
  exact ⟨whole, fraction, power, rest⟩

/-- A numeral is told from the text that it begins. -/
theorem unique {n m : Numeral} (lawful : n.Lawful) (lawful' : m.Lawful) {s t : Text} (ends : Ends s)
    (ends' : Ends t) (same : n.text ++ s = m.text ++ t) : n = m ∧ s = t := by
  obtain ⟨c, u, shape⟩ := List.exists_cons_of_ne_nil lawful.present
  obtain ⟨d, v, shape'⟩ := List.exists_cons_of_ne_nil lawful'.present
  have digit : (Text.digit? c).isSome = true := lawful.whole c (by simp [shape])
  have digit' : (Text.digit? d).isSome = true := lawful'.whole d (by simp [shape'])
  have minus : (Text.digit? '-').isSome = false := by decide
  simp only [text, List.append_assoc] at same
  have signs : n.negative = m.negative := by
    cases sign : n.negative <;> cases sign' : m.negative
    · rfl
    · simp [sign, sign', shape] at same
      simp [same.1, minus] at digit
    · simp [sign, sign', shape'] at same
      simp [← same.1, minus] at digit'
    · rfl
  rw [signs, List.append_cancel_left_eq] at same
  obtain ⟨whole, fraction, power, rest⟩ := unsigned_unique lawful lawful' ends ends' same
  have parts : n = m := by
    cases n
    cases m
    simp only at signs whole fraction power
    rw [signs, whole, fraction, power]
  exact ⟨parts, rest⟩

end Numeral

theorem FourDigits.unique {a b s t : Text} {m n : Nat} (first : FourDigits a m)
    (second : FourDigits b n) (same : a ++ s = b ++ t) : a = b ∧ m = n ∧ s = t := by
  obtain ⟨a₁, a₂, a₃, a₄, w, x, y, z, rfl, hw, hx, hy, hz, rfl⟩ := first
  obtain ⟨b₁, b₂, b₃, b₄, w', x', y', z', rfl, hw', hx', hy', hz', rfl⟩ := second
  simp only [List.cons_append, List.nil_append, List.cons.injEq] at same
  obtain ⟨rfl, rfl, rfl, rfl, rest⟩ := same
  obtain rfl : w = w' := Option.some.inj (hw.symm.trans hw')
  obtain rfl : x = x' := Option.some.inj (hx.symm.trans hx')
  obtain rfl : y = y' := Option.some.inj (hy.symm.trans hy')
  obtain rfl : z = z' := Option.some.inj (hz.symm.trans hz')
  exact ⟨rfl, rfl, rest⟩

theorem shortEscapes_unique {mark c d : Char} (first : (mark, c) ∈ shortEscapes)
    (second : (mark, d) ∈ shortEscapes) : c = d := by
  have keys : ∀ p ∈ shortEscapes, ∀ q ∈ shortEscapes, p.1 = q.1 → p.2 = q.2 := by decide
  exact keys _ first _ second rfl

theorem mark_ne_u {mark c : Char} (named : (mark, c) ∈ shortEscapes) : mark ≠ 'u' := by
  have marks : ∀ p ∈ shortEscapes, p.1 ≠ 'u' := by decide
  exact marks _ named

theorem Letter.unique {a b s t : Text} {c d : Char} (first : Letter a c) (second : Letter b d)
    (same : a ++ s = b ++ t) : a = b ∧ c = d ∧ s = t := by
  cases first with
  | plain free =>
    cases second with
    | plain =>
      obtain ⟨rfl, rest⟩ := List.cons.inj same
      exact ⟨rfl, rfl, rest⟩
    | short | unit | pair => exact absurd (List.cons.inj same).1 free.2
  | short named =>
    cases second with
    | plain free => exact absurd (List.cons.inj same).1.symm free.2
    | short named' =>
      obtain ⟨rfl, rest⟩ := List.cons.inj (List.cons.inj same).2
      exact ⟨rfl, shortEscapes_unique named named', rest⟩
    | unit | pair => exact absurd (List.cons.inj (List.cons.inj same).2).1 (mark_ne_u named)
  | unit hex scalar =>
    cases second with
    | plain free => exact absurd (List.cons.inj same).1.symm free.2
    | short named =>
      exact absurd (List.cons.inj (List.cons.inj same).2).1.symm (mark_ne_u named)
    | unit hex' =>
      obtain ⟨rfl, rfl, rest⟩ := hex.unique hex' (List.cons.inj (List.cons.inj same).2).2
      exact ⟨rfl, rfl, rest⟩
    | pair leads _ upper =>
      simp only [List.cons_append, List.append_assoc, List.cons.injEq, true_and] at same
      obtain ⟨_, rfl, _⟩ := hex.unique leads same
      omega
  | pair leads trails upper lower =>
    cases second with
    | plain free => exact absurd (List.cons.inj same).1.symm free.2
    | short named =>
      exact absurd (List.cons.inj (List.cons.inj same).2).1.symm (mark_ne_u named)
    | unit hex scalar =>
      simp only [List.cons_append, List.append_assoc, List.cons.injEq, true_and] at same
      obtain ⟨_, rfl, _⟩ := leads.unique hex same
      omega
    | pair leads' trails' =>
      simp only [List.cons_append, List.append_assoc, List.cons.injEq, true_and] at same
      obtain ⟨rfl, rfl, same⟩ := leads.unique leads' same
      simp only [List.cons.injEq, true_and] at same
      obtain ⟨rfl, rfl, rest⟩ := trails.unique trails' same
      exact ⟨rfl, rfl, rest⟩

theorem Letter.exists_cons {a : Text} {c : Char} (h : Letter a c) :
    ∃ first rest, a = first :: rest ∧ first ≠ '"' := by
  cases h with
  | plain free => exact ⟨_, _, rfl, free.1⟩
  | short | unit | pair => exact ⟨_, _, rfl, by decide⟩

theorem letters_unique {a b : List (Text × Char)} (first : ∀ l ∈ a, Letter l.1 l.2)
    (second : ∀ l ∈ b, Letter l.1 l.2) {s t : Text}
    (same : a.flatMap Prod.fst ++ '"' :: s = b.flatMap Prod.fst ++ '"' :: t) : a = b ∧ s = t := by
  induction a generalizing b with
  | nil =>
    cases b with
    | nil => exact ⟨rfl, (List.cons.inj same).2⟩
    | cons l b =>
      obtain ⟨c, rest, shape, other⟩ := (second l (List.mem_cons_self ..)).exists_cons
      simp only [List.flatMap_cons, shape] at same
      exact absurd (List.cons.inj same).1.symm other
  | cons k a ih =>
    obtain ⟨here, later⟩ := List.forall_mem_cons.1 first
    cases b with
    | nil =>
      obtain ⟨c, rest, shape, other⟩ := here.exists_cons
      simp only [List.flatMap_cons, shape] at same
      exact absurd (List.cons.inj same).1 other
    | cons l b =>
      obtain ⟨here', later'⟩ := List.forall_mem_cons.1 second
      rw [List.flatMap_cons, List.flatMap_cons, List.append_assoc, List.append_assoc] at same
      obtain ⟨text, letter, same⟩ := here.unique here' same
      obtain ⟨rfl, behind⟩ := ih later later' same
      exact ⟨by rw [Prod.ext text letter], behind⟩

end OrderReplay.Json
