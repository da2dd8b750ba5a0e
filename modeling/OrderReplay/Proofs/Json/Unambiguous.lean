import OrderReplay.Proofs.Json.Parts
import OrderReplay.Proofs.Json.Prefixes

/-! A text spells one tree at most. Of every part of a text more is shown, for the use within
lists and objects: of two spellings with something behind them that ends them, where the texts
agree, the trees agree and so does what is behind them. -/
namespace OrderReplay.Json

def skip (text : Text) : Text := text.dropWhile Reader.isSpace

theorem skip_append {blank : Text} (only : Blank blank) (text : Text) :
    skip (blank ++ text) = skip text := by
  induction blank with
  | nil => rfl
  | cons c rest ih =>
    obtain ⟨here, later⟩ := List.forall_mem_cons.1 only
    have space : Reader.isSpace c = true := by
      simpa [Reader.isSpace, or_assoc] using here
    rw [List.cons_append, skip, List.dropWhile_cons_of_pos space]
    exact ih later

theorem skip_cons {c : Char} (mark : Reader.isSpace c = false) (text : Text) :
    skip (c :: text) = c :: text :=
  List.dropWhile_cons_of_neg (by simp [mark])

def marks : List Char := [',', ']', '\x7d', ':']

/-- Behind a value stands nothing, or blanks and one of these marks. -/
def Ended (text : Text) : Prop := Heads (· ∈ marks) (skip text)

theorem skip_mark {c : Char} (mark : c ∈ marks) (text : Text) :
    skip (c :: text) = c :: text := by
  have space : ∀ c ∈ marks, Reader.isSpace c = false := by simp [marks, Reader.isSpace]
  exact skip_cons (space c mark) text

theorem ended_cons {c : Char} (mark : c ∈ marks) (text : Text) :
    Ended (c :: text) := by
  rw [Ended, skip_mark mark, heads_cons]
  exact mark

theorem ends_of_ended {text : Text} (h : Ended text) : Numeral.Ends text := by
  intro c member
  obtain ⟨rest, rfl⟩ := List.head?_eq_some_iff.1 member
  have others : ∀ c ∈ marks, Numeral.isEnd c = true := by
    simp [marks, Numeral.isEnd, Numeral.isMark, Text.digit?]
  have blanks : ∀ c ∈ [' ', '\t', '\n', '\r'], Numeral.isEnd c = true := by
    simp [Numeral.isEnd, Numeral.isMark, Text.digit?]
  cases space : Reader.isSpace c with
  | true => exact blanks c (by simpa [Reader.isSpace, or_assoc] using space)
  | false =>
    rw [Ended, skip_cons space, heads_cons] at h
    exact others c h

inductive Bare : Text → Tree Numeral → Prop where
  | null : Bare ['n', 'u', 'l', 'l'] .null
  | true : Bare ['t', 'r', 'u', 'e'] (.bool true)
  | false : Bare ['f', 'a', 'l', 's', 'e'] (.bool false)
  | number {n : Numeral} (lawful : n.Lawful) : Bare n.text (.number n)
  | string {letters : List (Text × Char)} (each : ∀ l ∈ letters, Letter l.1 l.2) :
      Bare ('"' :: letters.flatMap Prod.fst ++ ['"']) (.string (letters.map Prod.snd))
  | emptyList {blank} (only : Blank blank) : Bare ('[' :: blank ++ [']']) (.list [])
  | list {items : List (Text × Tree Numeral)} (present : items ≠ [])
      (each : ∀ i ∈ items, Spells i.1 i.2) :
      Bare ('[' :: [','].intercalate (items.map Prod.fst) ++ [']']) (.list (items.map Prod.snd))
  | emptyObject {blank} (only : Blank blank) : Bare ('\x7b' :: blank ++ ['\x7d']) (.object [])
  | object {members : List Spelling} (present : members ≠ [])
      (keys : ∀ m ∈ members, Spells m.keyText (.string m.key))
      (values : ∀ m ∈ members, Spells m.valueText m.value) :
      Bare ('\x7b' :: [','].intercalate (members.map Spelling.text) ++ ['\x7d'])
        (.object (merged (members.map Spelling.member)))

theorem bare_of_spells {text : Text} {tree : Tree Numeral} (h : Spells text tree) :
    ∃ before core behind, text = before ++ core ++ behind ∧ Blank before ∧ Blank behind ∧
      Bare core tree := by
  have alone {core : Text} {tree : Tree Numeral} (bare : Bare core tree) :
      ∃ before inner behind, core = before ++ inner ++ behind ∧ Blank before ∧ Blank behind ∧
        Bare inner tree :=
    ⟨[], core, [], by simp, blank_nil, blank_nil, bare⟩
  induction h with
  | blank left right _ ih =>
    obtain ⟨before, core, behind, rfl, left', right', bare⟩ := ih
    exact ⟨_ ++ before, core, behind ++ _, by simp, List.forall_mem_append.2 ⟨left, left'⟩,
      List.forall_mem_append.2 ⟨right', right⟩, bare⟩
  | null => exact alone .null
  | true => exact alone .true
  | false => exact alone .false
  | number lawful => exact alone (.number lawful)
  | string each => exact alone (.string each)
  | emptyList only => exact alone (.emptyList only)
  | list present each => exact alone (.list present each)
  | emptyObject only => exact alone (.emptyObject only)
  | object present keys values => exact alone (.object present keys values)

inductive Kind where
  | null
  | true
  | false
  | number
  | string
  | list
  | object
  deriving DecidableEq

def Tree.kind : Tree Numeral → Kind
  | .null => .null
  | .bool true => .true
  | .bool false => .false
  | .number _ => .number
  | .string _ => .string
  | .list _ => .list
  | .object _ => .object

def kindOf (c : Char) : Kind :=
  if c = 'n' then .null else if c = 't' then .true else if c = 'f' then .false
  else if c = '"' then .string else if c = '[' then .list else if c = '\x7b' then .object
  else .number

theorem kindOf_digit {c : Char} (digit : (Text.digit? c).isSome = true) :
    Reader.isSpace c = false ∧ c ∉ marks ∧ kindOf c = .number := by
  obtain ⟨d, digit⟩ := Option.isSome_iff_exists.1 digit
  have other {letter : Char} (none : Text.digit? letter = none) : c ≠ letter :=
    Reader.ne_of_digit digit none
  refine ⟨Reader.isSpace_of_digit digit, ?_, ?_⟩
  · simp only [marks, List.mem_cons, List.not_mem_nil, or_false, not_or]
    exact ⟨other rfl, other rfl, other rfl, other rfl⟩
  rw [kindOf, if_neg (other rfl), if_neg (other rfl), if_neg (other rfl), if_neg (other rfl),
    if_neg (other rfl), if_neg (other rfl)]

theorem bare_begins {core : Text} {tree : Tree Numeral} (h : Bare core tree) :
    ∃ c rest, core = c :: rest ∧ Reader.isSpace c = false ∧ c ∉ marks ∧ kindOf c = tree.kind := by
  cases h with
  | @number n lawful =>
    obtain ⟨c, rest, shape⟩ := List.exists_cons_of_ne_nil lawful.present
    cases sign : n.negative with
    | true =>
      have text : ∃ rest, n.text = '-' :: rest := by
        rw [Numeral.text, sign]
        exact ⟨_, rfl⟩
      obtain ⟨rest, text⟩ := text
      exact ⟨'-', rest, text, rfl, by decide, rfl⟩
    | false =>
      have text : ∃ rest, n.text = c :: rest := by
        rw [Numeral.text, sign, shape]
        exact ⟨_, rfl⟩
      obtain ⟨rest, text⟩ := text
      exact ⟨c, rest, text, kindOf_digit (lawful.whole c (by simp [shape]))⟩
  | null | true | false | string | emptyList | list | emptyObject | object =>
    exact ⟨_, _, rfl, rfl, by decide, rfl⟩

/-- What another spelling of the same text is, blanks before it put aside. -/
theorem bare_of_same {a b s t : Text} {x y : Tree Numeral} (first : Bare a x) (second : Spells b y)
    (ends : Ended t) (same : skip (a ++ s) = skip (b ++ t)) :
    ∃ core rest, Bare core y ∧ a ++ s = core ++ rest ∧ Ended rest ∧ skip rest = skip t ∧
      x.kind = y.kind := by
  obtain ⟨before, core, behind, rfl, left, right, bare⟩ := bare_of_spells second
  obtain ⟨c, u, rfl, space, _, kind⟩ := bare_begins first
  obtain ⟨d, v, rfl, space', _, kind'⟩ := bare_begins bare
  have rest : skip (behind ++ t) = skip t := skip_append right t
  rw [List.append_assoc, List.append_assoc, skip_append left, List.cons_append, List.cons_append,
    skip_cons space, skip_cons space'] at same
  refine ⟨_, behind ++ t, bare, same, ?_, rest, ?_⟩
  · rw [Ended, rest]
    exact ends
  · rw [← kind, ← kind', (List.cons.inj same).1]

/-- Of two spellings, where they agree with what is behind them, the trees agree and so does what
is behind, blanks put aside. -/
def Determined (part : Text → α → Prop) (a : Text) (x : α) : Prop :=
  ∀ {b : Text} {y : α} {s t : Text}, part b y → Ended s → Ended t → skip (a ++ s) = skip (b ++ t) →
    x = y ∧ skip s = skip t

theorem intercalate_cons {α : Type} (close : Char) (s : Text) (p : Text × α)
    (rest : List (Text × α)) :
    [','].intercalate ((p :: rest).map Prod.fst) ++ close :: s = p.1 ++
      if rest = [] then close :: s
      else ',' :: ([','].intercalate (rest.map Prod.fst) ++ close :: s) := by
  cases rest <;> simp

theorem parts_unique {α : Type} {part : Text → α → Prop} {close : Char}
    (closes : close ∈ [']', '\x7d']) {parts others : List (Text × α)} (present : parts ≠ [])
    (present' : others ≠ []) (first : ∀ p ∈ parts, Determined part p.1 p.2)
    (second : ∀ p ∈ others, part p.1 p.2) {s t : Text}
    (same : skip ([','].intercalate (parts.map Prod.fst) ++ close :: s) =
      skip ([','].intercalate (others.map Prod.fst) ++ close :: t)) :
    parts.map Prod.snd = others.map Prod.snd ∧ s = t := by
  have closing : close ∈ marks := by
    simp only [List.mem_cons, List.not_mem_nil, or_false] at closes
    rcases closes with rfl | rfl <;> decide
  have comma : close ≠ ',' := by
    simp only [List.mem_cons, List.not_mem_nil, or_false] at closes
    rcases closes with rfl | rfl <;> decide
  have separates : ',' ∈ marks := by decide
  induction parts generalizing others with
  | nil => exact absurd rfl present
  | cons p parts ih =>
    obtain ⟨q, others, rfl⟩ := List.exists_cons_of_ne_nil present'
    obtain ⟨here, later⟩ := List.forall_mem_cons.1 first
    obtain ⟨here', later'⟩ := List.forall_mem_cons.1 second
    rw [intercalate_cons, intercalate_cons] at same
    by_cases last : parts = [] <;> by_cases last' : others = []
    · rw [if_pos last, if_pos last'] at same
      obtain ⟨value, rest⟩ := here here' (ended_cons closing s) (ended_cons closing t) same
      rw [skip_mark closing, skip_mark closing] at rest
      exact ⟨by rw [last, last', List.map_cons, List.map_cons, value], (List.cons.inj rest).2⟩
    · rw [if_pos last, if_neg last'] at same
      obtain ⟨_, rest⟩ := here here' (ended_cons closing s) (ended_cons separates _) same
      rw [skip_mark closing, skip_mark separates] at rest
      exact absurd (List.cons.inj rest).1 comma
    · rw [if_neg last, if_pos last'] at same
      obtain ⟨_, rest⟩ := here here' (ended_cons separates _) (ended_cons closing t) same
      rw [skip_mark closing, skip_mark separates] at rest
      exact absurd (List.cons.inj rest).1.symm comma
    · rw [if_neg last, if_neg last'] at same
      obtain ⟨value, rest⟩ := here here' (ended_cons separates _) (ended_cons separates _) same
      rw [skip_mark separates, skip_mark separates] at rest
      obtain ⟨values, behind⟩ :=
        ih last last' later later' (congrArg skip (List.cons.inj rest).2)
      exact ⟨by rw [List.map_cons, List.map_cons, value, values], behind⟩

inductive Contents {α : Type} (part : Text → α → Prop) : Text → List α → Prop where
  | none {blank} (only : Blank blank) : Contents part blank []
  | some {parts : List (Text × α)} (present : parts ≠ []) (each : ∀ p ∈ parts, part p.1 p.2) :
      Contents part ([','].intercalate (parts.map Prod.fst)) (parts.map Prod.snd)

def Unmarked (text : Text) : Prop := ∀ rest, Heads (· ∉ marks) (skip (text ++ rest))

theorem unmarked_of_spells {text : Text} {tree : Tree Numeral} (h : Spells text tree) :
    Unmarked text := by
  obtain ⟨before, core, behind, rfl, left, _, bare⟩ := bare_of_spells h
  obtain ⟨c, rest, rfl, space, other, _⟩ := bare_begins bare
  intro more
  rw [List.append_assoc, List.append_assoc, skip_append left, List.cons_append, skip_cons space,
    heads_cons]
  exact other

theorem contents_ne {α : Type} {close : Char} (closing : close ∈ marks) {parts : List (Text × α)}
    (present : parts ≠ []) (begins : ∀ p ∈ parts, Unmarked p.1) {s t : Text} :
    skip ([','].intercalate (parts.map Prod.fst) ++ close :: s) ≠ close :: t := by
  obtain ⟨p, rest, rfl⟩ := List.exists_cons_of_ne_nil present
  intro same
  have other := begins p (List.mem_cons_self ..) (if rest = [] then close :: s
    else ',' :: ([','].intercalate (rest.map Prod.fst) ++ close :: s))
  rw [← intercalate_cons, same, heads_cons] at other
  exact other closing

/-- Contents are told from the text up to what closes them. -/
theorem contents_unique {α : Type} {part : Text → α → Prop} {close : Char}
    (closes : close ∈ [']', '\x7d']) (begins : ∀ {text x}, part text x → Unmarked text)
    {a b : Text} {xs ys : List α}
    (first : Contents (fun a x => part a x ∧ Determined part a x) a xs)
    (second : Contents part b ys) {s t : Text} (same : a ++ close :: s = b ++ close :: t) :
    xs = ys ∧ s = t := by
  have closing : close ∈ marks := by
    simp only [List.mem_cons, List.not_mem_nil, or_false] at closes
    rcases closes with rfl | rfl <;> decide
  have same := congrArg skip same
  cases first with
  | none only =>
    rw [skip_append only, skip_mark closing] at same
    cases second with
    | none only' =>
      rw [skip_append only', skip_mark closing] at same
      exact ⟨rfl, (List.cons.inj same).2⟩
    | some present each =>
      exact absurd same.symm (contents_ne closing present fun p member => begins (each p member))
  | some present each =>
    cases second with
    | none only =>
      rw [skip_append only, skip_mark closing] at same
      exact absurd same (contents_ne closing present fun p member => begins (each p member).1)
    | some present' each' =>
      exact parts_unique closes present present' (fun p member => (each p member).2) each' same

def SpellsMember (text : Text) (member : Text × Tree Numeral) : Prop :=
  ∃ m : Spelling, text = m.text ∧ member = m.member ∧ Spells m.keyText (.string m.key) ∧
    Spells m.valueText m.value

theorem unmarked_of_member {text : Text} {member : Text × Tree Numeral}
    (h : SpellsMember text member) : Unmarked text := by
  obtain ⟨m, rfl, rfl, key, _⟩ := h
  intro rest
  rw [Spelling.text, List.append_assoc]
  exact unmarked_of_spells key _

theorem member_determined {m : Spelling} (key : Determined Spells m.keyText (.string m.key))
    (value : Determined Spells m.valueText m.value) : Determined SpellsMember m.text m.member := by
  rintro _ _ s t ⟨other, rfl, rfl, name, given⟩ ends ends' same
  have colon : ':' ∈ marks := by decide
  rw [Spelling.text, Spelling.text, List.append_assoc, List.append_assoc, List.cons_append,
    List.cons_append] at same
  obtain ⟨names, rest⟩ := key name (ended_cons colon _) (ended_cons colon _) same
  rw [skip_mark colon, skip_mark colon] at rest
  obtain ⟨values, behind⟩ := value given ends ends' (congrArg skip (List.cons.inj rest).2)
  exact ⟨by rw [Spelling.member, Spelling.member, Tree.string.inj names, values], behind⟩

theorem members_contents {part : Text → Text × Tree Numeral → Prop} {members : List Spelling}
    (present : members ≠ []) (each : ∀ m ∈ members, part m.text m.member) :
    Contents part ([','].intercalate (members.map Spelling.text))
      (members.map Spelling.member) := by
  have some : members.map (fun m => (m.text, m.member)) ≠ [] := by simpa using present
  have pairs : ∀ p ∈ members.map fun m => (m.text, m.member), part p.1 p.2 := by simpa using each
  have parts := Contents.some some pairs
  rw [List.map_map, List.map_map] at parts
  exact parts

theorem literal_determined {core : Text} {tree : Tree Numeral} (bare : Bare core tree)
    (only : ∀ {other y}, Bare other y → tree.kind = y.kind → other = core ∧ y = tree) :
    Determined Spells core tree := by
  intro b y s t second ends ends' same
  obtain ⟨other, rest, bare', same, _, behind, kinds⟩ := bare_of_same bare second ends' same
  obtain ⟨rfl, rfl⟩ := only bare' kinds
  exact ⟨rfl, by rw [← behind, List.append_cancel_left same]⟩

theorem list_determined {inner : Text} {trees : List (Tree Numeral)}
    (bare : Bare ('[' :: inner ++ [']']) (.list trees))
    (contents : Contents (fun a x => Spells a x ∧ Determined Spells a x) inner trees) :
    Determined Spells ('[' :: inner ++ [']']) (.list trees) := by
  intro b y s t second ends ends' same
  obtain ⟨core, rest, bare', same, _, behind, kinds⟩ := bare_of_same bare second ends' same
  have unique {other : Text} {trees' : List (Tree Numeral)}
      (contents' : Contents Spells other trees')
      (same : '[' :: inner ++ [']'] ++ s = '[' :: other ++ [']'] ++ rest) :
      (Tree.list trees) = .list trees' ∧ skip s = skip t := by
    simp only [List.cons_append, List.append_assoc, List.nil_append, List.cons.injEq,
      true_and] at same
    obtain ⟨rfl, rfl⟩ := contents_unique (by simp) unmarked_of_spells contents contents' same
    exact ⟨rfl, behind⟩
  cases bare' with
  | emptyList only => exact unique (.none only) same
  | list present each => exact unique (.some present each) same
  | null | true | false | number | string | emptyObject | object => cases kinds

theorem object_determined {inner : Text} {members : List (Text × Tree Numeral)}
    (bare : Bare ('\x7b' :: inner ++ ['\x7d']) (.object (merged members)))
    (contents : Contents (fun a x => SpellsMember a x ∧ Determined SpellsMember a x) inner
      members) :
    Determined Spells ('\x7b' :: inner ++ ['\x7d']) (.object (merged members)) := by
  intro b y s t second ends ends' same
  obtain ⟨core, rest, bare', same, _, behind, kinds⟩ := bare_of_same bare second ends' same
  have unique {other : Text} {members' : List (Text × Tree Numeral)}
      (contents' : Contents SpellsMember other members')
      (same : '\x7b' :: inner ++ ['\x7d'] ++ s = '\x7b' :: other ++ ['\x7d'] ++ rest) :
      (Tree.object (merged members)) = .object (merged members') ∧ skip s = skip t := by
    simp only [List.cons_append, List.append_assoc, List.nil_append, List.cons.injEq,
      true_and] at same
    obtain ⟨rfl, rfl⟩ := contents_unique (by simp) unmarked_of_member contents contents' same
    exact ⟨rfl, behind⟩
  cases bare' with
  | emptyObject only => exact unique (.none only) same
  | object present keys values =>
    exact unique (members_contents present fun m member =>
      ⟨m, rfl, rfl, keys m member, values m member⟩) same
  | null | true | false | number | string | emptyList | list => cases kinds

theorem determined {text : Text} {tree : Tree Numeral} (h : Spells text tree) :
    Determined Spells text tree := by
  induction h with
  | blank left right _ ih =>
    intro b y s t second ends ends' same
    rw [List.append_assoc, List.append_assoc, skip_append left] at same
    have rest := skip_append right s
    obtain ⟨value, behind⟩ := ih second (by rw [Ended, rest]; exact ends) ends' same
    exact ⟨value, rest.symm.trans behind⟩
  | null =>
    refine literal_determined .null fun bare kinds => ?_
    cases bare with
    | null => exact ⟨rfl, rfl⟩
    | true | false | number | string | emptyList | list | emptyObject | object => cases kinds
  | true =>
    refine literal_determined .true fun bare kinds => ?_
    cases bare with
    | true => exact ⟨rfl, rfl⟩
    | null | false | number | string | emptyList | list | emptyObject | object => cases kinds
  | false =>
    refine literal_determined .false fun bare kinds => ?_
    cases bare with
    | false => exact ⟨rfl, rfl⟩
    | null | true | number | string | emptyList | list | emptyObject | object => cases kinds
  | number lawful =>
    intro b y s t second ends ends' same
    obtain ⟨core, rest, bare, same, ended, behind, kinds⟩ :=
      bare_of_same (.number lawful) second ends' same
    cases bare with
    | number lawful' =>
      obtain ⟨rfl, rfl⟩ :=
        Numeral.unique lawful lawful' (ends_of_ended ends) (ends_of_ended ended) same
      exact ⟨rfl, behind⟩
    | null | true | false | string | emptyList | list | emptyObject | object => cases kinds
  | string each =>
    intro b y s t second ends ends' same
    obtain ⟨core, rest, bare, same, _, behind, kinds⟩ :=
      bare_of_same (.string each) second ends' same
    cases bare with
    | string each' =>
      simp only [List.cons_append, List.append_assoc, List.nil_append, List.cons.injEq,
        true_and] at same
      obtain ⟨rfl, rfl⟩ := letters_unique each each' same
      exact ⟨rfl, behind⟩
    | null | true | false | number | emptyList | list | emptyObject | object => cases kinds
  | emptyList only => exact list_determined (.emptyList only) (.none only)
  | list present each ih =>
    exact list_determined (.list present each)
      (.some present fun i member => ⟨each i member, ih i member⟩)
  | emptyObject only => exact object_determined (.emptyObject only) (.none only)
  | object present keys values ih ih' =>
    exact object_determined (.object present keys values)
      (members_contents present fun m member => ⟨⟨m, rfl, rfl, keys m member, values m member⟩,
        member_determined (ih m member) (ih' m member)⟩)

/-- A text spells one tree at most. -/
theorem Spells.unique {text : Text} {a b : Tree Numeral} (first : Spells text a)
    (second : Spells text b) : a = b := by
  have nothing : Ended [] := by
    intro c member
    cases member
  exact (determined first second nothing nothing rfl).1

theorem Spells.iff_eq {text : Text} {document : Tree Numeral} (h : Spells text document)
    (tree : Tree Numeral) : Spells text tree ↔ tree = document :=
  ⟨fun other => other.unique h, fun same => same ▸ h⟩

/-- What a text stands for, its numerals replaced by the numbers that they denote. -/
def Denotes (text : Text) (content : Tree ℚ) : Prop :=
  ∃ tree, Spells text tree ∧ content = tree.map Numeral.value

theorem Spells.denotes_iff {text : Text} {document : Tree Numeral} (h : Spells text document)
    (content : Tree ℚ) : Denotes text content ↔ content = document.map Numeral.value := by
  constructor
  · rintro ⟨tree, spells, rfl⟩
    rw [spells.unique h]
  · rintro rfl
    exact ⟨document, h, rfl⟩

theorem Denotes.unique {text : Text} {a b : Tree ℚ} (first : Denotes text a)
    (second : Denotes text b) : a = b := by
  obtain ⟨tree, spells, rfl⟩ := first
  exact ((spells.denotes_iff b).1 second).symm

end OrderReplay.Json
