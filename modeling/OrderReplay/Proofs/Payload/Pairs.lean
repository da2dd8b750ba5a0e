import OrderReplay.Proofs.Payload.Doubling
import OrderReplay.Proofs.Text.Pieces

/-! What the repair makes of any payload that shows the doubled key, however its quotes lie.
Nothing but quotes goes, two for each pair, and every line is repaired as if it stood alone. How
the doubled quotes of a line are paired is told without the function that does it. -/
namespace OrderReplay.Payload.DoubledQuotes

def twin : Text := ['"', '"']

variable {text front rest content after out : Text} {c : Char}

/-! ### One character further -/

theorem not_twin (apart : ∀ later, c = '"' → rest = '"' :: later → False) :
    ¬ twin <+: c :: rest := by
  rintro ⟨later, begins⟩
  obtain ⟨quote, next⟩ := List.cons.inj begins
  exact apart later quote.symm next.symm

theorem apart_of_not_twin (alone : ¬ twin <+: c :: rest) (later : Text) (quote : c = '"')
    (next : rest = '"' :: later) : False := by
  subst quote next
  exact alone ⟨later, rfl⟩

theorem partner?_step (alone : ¬ twin <+: c :: rest) :
    partner? (c :: rest) = if c = '\n' then none
      else (partner? rest).map fun (content, after) => (c :: content, after) := by
  rw [partner?]
  exact apart_of_not_twin alone

theorem collapse_step (alone : ¬ twin <+: c :: rest) :
    collapse (c :: rest) = c :: collapse rest := by
  rw [collapse]
  exact apart_of_not_twin alone

theorem twin_infix_cons (alone : ¬ twin <+: c :: rest) : twin <:+: c :: rest ↔ twin <:+: rest := by
  rw [List.infix_cons_iff, or_iff_right alone]

/-- Whether the first character begins a doubled quote is told up to the next quote. -/
theorem twin_prefix_append (c : Char) (front a b : Text) :
    twin <+: c :: (front ++ '"' :: a) ↔ twin <+: c :: (front ++ '"' :: b) := by
  cases front <;> simp [twin]

/-- Before a quote no doubled quote begins, neither with the first character nor later. -/
theorem clear_cons_iff (c : Char) (front rest : Text) : ¬ twin <:+: c :: front ++ ['"'] ↔
    ¬ twin <+: c :: (front ++ '"' :: rest) ∧ ¬ twin <:+: front ++ ['"'] := by
  rw [List.cons_append, List.infix_cons_iff, not_or, twin_prefix_append c front [] rest]

theorem twin_prefix_line (c : Char) (front rest : Text) :
    twin <+: c :: (front ++ '\n' :: rest) ↔ twin <+: c :: front := by
  cases front <;> simp [twin]

/-! ### Partners -/

/-- The partner of a doubled quote is the nearest one behind it, if it is on the same line. -/
theorem partner?_eq_some_iff : partner? text = some (content, after) ↔
    text = content ++ twin ++ after ∧ ¬ twin <:+: content ++ ['"'] ∧ '\n' ∉ content := by
  constructor
  · intro found
    fun_induction partner? text generalizing content with
    | case1 rest =>
      obtain ⟨rfl, rfl⟩ := Prod.mk.inj (Option.some.inj found)
      exact ⟨rfl, by decide, List.not_mem_nil⟩
    | case2 => cases found
    | case3 c rest apart line ih =>
      obtain ⟨⟨inner, behind⟩, later, same⟩ := Option.map_eq_some_iff.1 found
      obtain ⟨rfl, rfl⟩ := Prod.mk.inj same
      obtain ⟨rfl, clear, within⟩ := ih later
      have alone : ¬ twin <+: c :: (inner ++ '"' :: ('"' :: behind)) := by
        simpa [twin] using not_twin apart
      exact ⟨rfl, (clear_cons_iff c inner _).2 ⟨alone, clear⟩, by simp [within, Ne.symm line]⟩
    | case4 => cases found
  · rintro ⟨rfl, clear, line⟩
    rw [List.append_assoc]
    induction content with
    | nil => rfl
    | cons c content ih =>
      rw [List.mem_cons, not_or] at line
      obtain ⟨alone, inner⟩ := (clear_cons_iff c content ('"' :: after)).1 clear
      have next : ¬ twin <+: c :: (content ++ (twin ++ after)) := alone
      rw [List.cons_append, partner?_step next, if_neg (Ne.symm line.1), ih inner line.2]
      rfl

theorem partner?_eq_none (line : '\n' ∉ text) (none : partner? text = none) : ¬ twin <:+: text := by
  intro within
  fun_induction partner? text with
  | case1 => cases none
  | case2 => simp at line
  | case3 c rest apart _ ih =>
    rw [List.mem_cons, not_or] at line
    exact ih line.2 (Option.map_eq_none_iff.1 none) ((twin_infix_cons (not_twin apart)).1 within)
  | case4 => exact absurd (List.infix_nil.1 within) (by decide)

/-! ### One line -/

/-- Behind a doubled quote stands no other. -/
def Lone (line : Text) : Prop :=
  ∀ before behind, line = before ++ twin ++ behind → ¬ twin <:+: behind

theorem Lone.tail (lone : Lone (c :: rest)) : Lone rest :=
  fun before behind split => lone (c :: before) behind (congrArg (c :: ·) split)

theorem Lone.cons (lone : Lone rest) (alone : ¬ twin <+: c :: rest) : Lone (c :: rest) := by
  intro before behind split
  cases before with
  | nil => exact absurd ⟨behind, split.symm⟩ alone
  | cons d before => exact lone before behind (List.cons.inj split).2

theorem lone_twin (last : ¬ twin <:+: rest) : Lone ('"' :: '"' :: rest) := by
  intro before behind split within
  have place : rest.drop before.length = behind := by
    have dropped := congrArg (List.drop (before.length + 2)) split
    rwa [List.drop_left' (by simp [twin])] at dropped
  rw [← place] at within
  exact last (within.trans (List.drop_suffix ..).isInfix)

/-- How the doubled quotes of a line are paired, and what becomes of it. From left to right each
is paired with the nearest behind it, and one quote is left of either; one that finds no partner
stays. -/
inductive Paired : Text → Text → Prop where
  | lone {line} (lone : Lone line) : Paired line line
  | pair {before content behind out} (first : ¬ twin <:+: before ++ ['"'])
      (nearest : ¬ twin <:+: content ++ ['"']) (rest : Paired behind out) :
      Paired (before ++ twin ++ content ++ twin ++ behind)
        (before ++ '"' :: content ++ '"' :: out)

theorem Paired.cons (paired : Paired rest out) (alone : ¬ twin <+: c :: rest) :
    Paired (c :: rest) (c :: out) := by
  cases paired with
  | lone lone => exact .lone (lone.cons alone)
  | @pair before content behind out first nearest rest =>
    have begins : ¬ twin <+: c :: (before ++ '"' :: ('"' :: (content ++ (twin ++ behind)))) := by
      simpa [twin] using alone
    have clear : ¬ twin <:+: c :: before ++ ['"'] := (clear_cons_iff c before _).2 ⟨begins, first⟩
    exact Paired.pair clear nearest rest

theorem collapse_of_lone (lone : Lone text) : collapse text = text := by
  fun_induction collapse text with
  | case1 rest content after found =>
    obtain ⟨rfl, -⟩ := partner?_eq_some_iff.1 found
    exact absurd ⟨content, after, rfl⟩ (lone [] _ rfl)
  | case2 rest _ ih => rw [ih lone.tail]
  | case3 c rest _ ih => rw [ih lone.tail]
  | case4 => rfl

theorem collapse_front (first : ¬ twin <:+: front ++ ['"']) (rest : Text) :
    collapse (front ++ '"' :: rest) = front ++ collapse ('"' :: rest) := by
  induction front with
  | nil => rfl
  | cons c front ih =>
    obtain ⟨alone, later⟩ := (clear_cons_iff c front rest).1 first
    rw [List.cons_append, collapse_step alone, ih later]
    rfl

/-- On one line the repair pairs the doubled quotes as they are to be paired. -/
theorem paired_iff (line : '\n' ∉ text) : Paired text out ↔ out = collapse text := by
  constructor
  · intro paired
    induction paired with
    | lone lone => exact (collapse_of_lone lone).symm
    | @pair before content behind out first nearest rest ih =>
      simp only [List.mem_append, not_or] at line
      have found : partner? (content ++ twin ++ behind) = some (content, behind) :=
        partner?_eq_some_iff.2 ⟨rfl, nearest, line.1.1.2⟩
      have whole : before ++ twin ++ content ++ twin ++ behind =
          before ++ '"' :: ('"' :: (content ++ twin ++ behind)) := by simp [twin]
      rw [whole, collapse_front first, collapse, found, ih line.2]
      simp
  · rintro rfl
    fun_induction collapse text with
    | case1 rest content after found ih =>
      obtain ⟨rfl, nearest, -⟩ := partner?_eq_some_iff.1 found
      simp only [List.mem_cons, List.mem_append, not_or] at line
      have begins : ¬ twin <:+: [] ++ ['"'] := by decide
      exact Paired.pair begins nearest (ih line.2.2.2)
    | case2 rest found _ =>
      simp only [List.mem_cons, not_or] at line
      -- Without a partner there is no doubled quote on the rest of the line at all.
      have lone := lone_twin (partner?_eq_none line.2.2 found)
      rw [collapse_of_lone lone.tail]
      exact .lone lone
    | case3 c rest apart ih =>
      rw [List.mem_cons, not_or] at line
      exact (ih line.2).cons (not_twin apart)
    | case4 => exact .lone fun before behind split => by simp [twin] at split

/-! ### Line by line -/

/-- A partner is looked for as it would be if nothing came behind the line. -/
theorem partner?_line (line : '\n' ∉ front) (rest : Text) :
    partner? (front ++ '\n' :: rest) =
      (partner? front).map fun (content, after) => (content, after ++ '\n' :: rest) := by
  fun_induction partner? front with
  | case1 => rfl
  | case2 => simp at line
  | case3 c front apart here ih =>
    rw [List.mem_cons, not_or] at line
    have alone : ¬ twin <+: c :: (front ++ '\n' :: rest) := by
      rw [twin_prefix_line]
      exact not_twin apart
    rw [List.cons_append, partner?_step alone, if_neg here, ih line.2, Option.map_map,
      Option.map_map]
    rfl
  | case4 => rfl

/-- A line is repaired as it would be without those behind it. -/
theorem collapse_line (line : '\n' ∉ front) (rest : Text) :
    collapse (front ++ '\n' :: rest) = collapse front ++ '\n' :: collapse rest := by
  fun_induction collapse front with
  | case1 front content after found ih =>
    obtain ⟨rfl, -⟩ := partner?_eq_some_iff.1 found
    simp only [List.mem_cons, List.mem_append, not_or] at line
    have within : '\n' ∉ content ++ twin ++ after := by simp [line]
    have reaches := partner?_line within rest
    rw [found] at reaches
    rw [List.cons_append, List.cons_append, collapse, reaches]
    simp [ih line.2.2.2]
  | case2 front found ih =>
    simp only [List.mem_cons, not_or] at line
    have alone := partner?_line line.2.2 rest
    rw [found] at alone
    rw [List.cons_append, List.cons_append, collapse, alone]
    simpa [line] using ih
  | case3 c front apart ih =>
    rw [List.mem_cons, not_or] at line
    have alone : ¬ twin <+: c :: (front ++ '\n' :: rest) := by
      rw [twin_prefix_line]
      exact not_twin apart
    rw [List.cons_append, collapse_step alone, ih line.2]
    rfl
  | case4 => exact collapse_cons (by decide) rest

theorem collapse_pieces (text : Text) :
    collapse text = ['\n'].intercalate ((Text.pieces '\n' text).map collapse) := by
  induction text using Text.marks_induction '\n' with
  | plain line plain =>
    rw [Text.pieces_plain plain, List.map_singleton, List.intercalate_singleton]
  | first line rest plain ih =>
    have more : (Text.pieces '\n' rest).map collapse ≠ [] := by
      rw [ne_eq, List.map_eq_nil_iff]
      exact Text.pieces_ne_nil '\n' rest
    rw [collapse_line plain, Text.pieces_append plain, List.map_cons,
      List.intercalate_cons_of_ne_nil more, ← ih]
    simp

/-! ### What goes -/

/-- What is left of a text if quotes are taken from it, an even number of them. -/
structure Thinned (text out : Text) : Prop where
  sublist : out.Sublist text
  others : out.filter (· ≠ '"') = text.filter (· ≠ '"')
  pairs : ∃ n, text.count '"' = out.count '"' + 2 * n

theorem Thinned.cons (thinned : Thinned rest out) (c : Char) : Thinned (c :: rest) (c :: out) := by
  obtain ⟨sublist, others, n, same⟩ := thinned
  refine ⟨sublist.cons_cons c, ?_, n, ?_⟩
  · rw [List.filter_cons, List.filter_cons, others]
  · rw [List.count_cons, List.count_cons, same]
    omega

theorem Thinned.pair (thinned : Thinned after out) (content : Text) :
    Thinned ('"' :: '"' :: (content ++ twin ++ after)) ('"' :: content ++ '"' :: out) := by
  obtain ⟨sublist, others, n, same⟩ := thinned
  refine ⟨?_, ?_, n + 1, ?_⟩
  · have behind : ('"' :: out).Sublist (twin ++ after) := (sublist.cons_cons '"').cons '"'
    have within := (List.Sublist.refl content).append behind
    rw [← List.append_assoc] at within
    exact (within.cons '"').cons_cons '"'
  · simpa [twin] using others
  · simp only [twin, List.cons_append, List.nil_append, List.append_assoc, List.count_append,
      List.count_cons_self, same]
    omega

theorem thinned_collapse (text : Text) : Thinned text (collapse text) := by
  fun_induction collapse text with
  | case1 rest content after found ih =>
    obtain ⟨rfl, -⟩ := partner?_eq_some_iff.1 found
    exact ih.pair content
  | case2 rest _ ih => exact ih.cons '"'
  | case3 c rest _ ih => exact ih.cons c
  | case4 => exact ⟨.refl [], rfl, 0, rfl⟩

/-- The repair of a payload that shows the doubled key takes nothing but quotes, and an even number
of them. It is the repair of its lines, each taken alone and then joined again; and what becomes
of a line is told by how its doubled quotes are paired. -/
theorem repair_by_lines {payload : Text} (keyed : telltale <:+: payload) :
    (repair payload).Sublist payload ∧
    (repair payload).filter (· ≠ '"') = payload.filter (· ≠ '"') ∧
    (∃ pairs, payload.count '"' = (repair payload).count '"' + 2 * pairs) ∧
    repair payload = ['\n'].intercalate ((Text.pieces '\n' payload).map collapse) ∧
    ∀ line ∈ Text.pieces '\n' payload, ∀ out, Paired line out ↔ out = collapse line := by
  have same : repair payload = collapse payload := by
    rw [repair, if_pos]
    exact (Text.occurs_iff telltale payload).2 keyed
  have thinned := thinned_collapse payload
  rw [same]
  refine ⟨thinned.sublist, thinned.others, thinned.pairs, collapse_pieces payload, ?_⟩
  intro line member out
  exact paired_iff (Text.mem_pieces member).2

/-- Three quotes in a row, four of them, and a doubled quote on each of two lines, which find no
partner there. -/
theorem repair_by_lines_odd_runs :
    let payload := "\"\"\"id\"\"\",\"\"\"\"\n\"\"x\ny\"\"\n\"\"\"".toList
    let repaired := "\"\"id\"\",\"\"\n\"\"x\ny\"\"\n\"\"\"".toList
    telltale <:+: payload ∧ repair payload = repaired ∧ repaired.Sublist payload ∧
      (∃ pairs, payload.count '"' = repaired.count '"' + 2 * pairs) ∧
      Paired "y\"\"".toList "y\"\"".toList := by
  intro payload repaired
  have keyed : telltale <:+: payload := (Text.occurs_iff telltale payload).1 (by decide)
  obtain ⟨sublist, -, pairs, -, paired⟩ := repair_by_lines keyed
  have same : repair payload = repaired := by decide +kernel
  have line : "y\"\"".toList ∈ Text.pieces '\n' payload := by decide
  have left : "y\"\"".toList = collapse "y\"\"".toList := by decide +kernel
  rw [same] at sublist pairs
  exact ⟨keyed, same, sublist, pairs, (paired _ line _).2 left⟩

end OrderReplay.Payload.DoubledQuotes
