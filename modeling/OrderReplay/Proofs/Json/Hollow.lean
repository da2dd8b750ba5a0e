import OrderReplay.Proofs.Json.Quotes
import OrderReplay.Proofs.Json.Whole
import OrderReplay.Proofs.Payload.Doubling

/-! Texts in which every quote is written twice, read as they are. The first of two quotes opens
a string and the second one closes it, so that every string is empty and no object has a key but
the empty one. -/
namespace OrderReplay.Json

open Payload.DoubledQuotes (doubled)

def Members.Nameless (members : Members) : Prop := ∀ m ∈ members, m.1 = []

theorem Members.Nameless.put {members : Members} (nameless : members.Nameless) (value : Value) :
    (members.put [] value).Nameless := by
  intro m listed
  have key : m.1 ∈ (members.put [] value).map Prod.fst := List.mem_map_of_mem listed
  rw [Members.keys_put] at key
  have known : m.1 ∈ members.map Prod.fst → m.1 = [] := by
    intro present
    obtain ⟨other, member, same⟩ := List.mem_map.1 present
    rw [← same]
    exact nameless other member
  split at key
  next => exact known key
  next =>
    rcases List.mem_append.1 key with present | last
    · exact known present
    · exact List.mem_singleton.1 last

theorem Members.Nameless.get?_eq_none {members : Members} (nameless : members.Nameless) {key : Text}
    (named : key ≠ []) : members.get? key = none := by
  induction members with
  | nil => rfl
  | cons m rest ih =>
    obtain ⟨here, later⟩ := List.forall_mem_cons.1 nameless
    rw [Members.get?, if_neg (here ▸ named.symm)]
    exact ih later

inductive Frame.Nameless : Frame → Prop where
  | list {items} : Nameless (.list items)
  | object {members} (nameless : Members.Nameless members) : Nameless (.object members [])

inductive Mode.Nameless : Mode → Prop where
  | value : Nameless .value
  | listStart : Nameless .listStart
  | listNext {items} : Nameless (.listNext items)
  | objectStart : Nameless .objectStart
  | key {members} (nameless : Members.Nameless members) : Nameless (.key members)
  | colon {members} (nameless : Members.Nameless members) : Nameless (.colon members [])
  | objectNext {members} (nameless : Members.Nameless members) : Nameless (.objectNext members)
  | number {negative phase} : Nameless (.number negative phase)
  | literal {due value} (bare : '"' ∉ due) (plain : ∀ members, value ≠ .object members) :
      Nameless (.literal due value)
  | complete {value} (nameless : ∀ members, value = .object members → Members.Nameless members) :
      Nameless (.complete value)

namespace Reader

structure Nameless (r : Reader) : Prop where
  frames : ∀ frame ∈ r.stack, frame.Nameless
  mode : r.mode.Nameless

theorem Nameless.not_within {r : Reader} (nameless : Nameless r) (scan : Quotation.Scan) :
    ¬ Within r scan := by
  intro within
  have mode := nameless.mode
  cases within <;> cases mode

/-- A value in its place, which is of no concern unless it is the whole text. -/
theorem nameless_of_settle {root : Root} {value : Value} {stack : List Frame} {r : Reader}
    (frames : ∀ frame ∈ stack, frame.Nameless)
    (nameless : ∀ members, value = .object members → Members.Nameless members)
    (h : settle root value stack = .ok r) : Nameless r := by
  cases stack with
  | nil =>
    simp only [settle] at h
    split at h
    · obtain rfl := Except.ok.inj h
      exact ⟨frames, .complete nameless⟩
    · cases h
  | cons frame outer =>
    obtain ⟨here, others⟩ := List.forall_mem_cons.1 frames
    cases here with
    | list =>
      obtain rfl := Except.ok.inj h
      exact ⟨others, .listNext⟩
    | object members =>
      obtain rfl := Except.ok.inj h
      exact ⟨others, .objectNext (members.put value)⟩

theorem frames_of_expects {r : Reader} {stack : List Frame} (nameless : Nameless r)
    (expects : Expects r stack) : ∀ frame ∈ stack, frame.Nameless := by
  cases expects with
  | value => exact nameless.frames
  | item => exact List.forall_mem_cons.2 ⟨.list, nameless.frames⟩

theorem members_of_keyDue {mode : Mode} {members : Members} (nameless : mode.Nameless)
    (due : KeyDue mode members) : Members.Nameless members := by
  cases due with
  | first => exact List.forall_mem_nil _
  | later =>
    cases nameless with
    | key nameless => exact nameless

theorem literal_plain {name : Text} {value : Value} (h : (name, value) ∈ literals) :
    '"' ∉ name ∧ ∀ members, value ≠ .object members := by
  simp only [literals, List.mem_cons, Prod.mk.injEq, List.not_mem_nil, or_false] at h
  rcases h with ⟨rfl, rfl⟩ | ⟨rfl, rfl⟩ | ⟨rfl, rfl⟩ <;> exact ⟨by decide, by simp⟩

/-- A character that is no quote leaves no string open and gives no key. -/
theorem nameless_step {root : Root} {r next : Reader} {c : Char} (nameless : Nameless r)
    (other : c ≠ '"') (h : Step root r c next) : Nameless next := by
  have unnamed {value : Value} (plain : ∀ members, value ≠ .object members) (members : Members)
      (same : value = .object members) : Members.Nameless members := absurd same (plain members)
  induction h with
  | blank => exact nameless
  | brace expects => exact ⟨frames_of_expects nameless expects, .objectStart⟩
  | bracket expects => exact ⟨frames_of_expects nameless expects, .listStart⟩
  | quote | keyQuote => exact absurd rfl other
  | letter expects name =>
    obtain ⟨bare, plain⟩ := literal_plain name
    refine ⟨frames_of_expects nameless expects, .literal (fun member => bare ?_) plain⟩
    exact List.mem_cons_of_mem _ member
  | digit expects => exact ⟨frames_of_expects nameless expects, .number⟩
  | listEmpty settled | listEnd settled =>
    exact nameless_of_settle nameless.frames (unnamed (by simp)) settled
  | listComma => exact ⟨List.forall_mem_cons.2 ⟨.list, nameless.frames⟩, .value⟩
  | objectEmpty settled =>
    refine nameless_of_settle nameless.frames (fun members same => ?_) settled
    obtain rfl := Value.object.inj same
    exact List.forall_mem_nil _
  | objectComma =>
    cases nameless.mode with
    | objectNext members => exact ⟨nameless.frames, .key members⟩
  | objectEnd settled =>
    cases nameless.mode with
    | objectNext members =>
      refine nameless_of_settle nameless.frames (fun others same => ?_) settled
      obtain rfl := Value.object.inj same
      exact members
  | keyMore | keyEnd => exact absurd .key (nameless.not_within _)
  | stringMore | stringEnd => exact absurd .string (nameless.not_within _)
  | colon =>
    cases nameless.mode with
    | colon members =>
      exact ⟨List.forall_mem_cons.2 ⟨.object members, nameless.frames⟩, .value⟩
  | literalMore =>
    cases nameless.mode with
    | literal bare plain =>
      exact ⟨nameless.frames, .literal (fun member => bare (List.mem_cons_of_mem _ member)) plain⟩
  | literalEnd settled =>
    cases nameless.mode with
    | literal _ plain => exact nameless_of_settle nameless.frames (unnamed plain) settled
  | numberMore => exact ⟨nameless.frames, .number⟩
  | numberEnd _ _ settled _ ih =>
    exact ih (nameless_of_settle nameless.frames (unnamed (by simp)) settled) other

/-- A quote outside of strings opens one. -/
theorem opened_of_quote {root : Root} {r next : Reader} (nameless : Nameless r)
    (h : Step root r '"' next) :
    (∃ stack, Expects r stack ∧ next = ⟨stack, .string .start⟩) ∨
      ∃ members, KeyDue r.mode members ∧ next = ⟨r.stack, .keyString members .start⟩ := by
  generalize is : '"' = c at h
  cases h with
  | quote expects => exact .inl ⟨_, expects, rfl⟩
  | keyQuote due => exact .inr ⟨_, due, rfl⟩
  | blank _ space => subst is; cases space
  | letter _ name =>
    subst is
    exact absurd (List.mem_cons_self ..) (literal_plain name).1
  | digit _ first => subst is; cases first
  | literalMore | literalEnd =>
    subst is
    cases nameless.mode with
    | literal bare => exact absurd (List.mem_cons_self ..) bare
  | keyMore | keyEnd => exact absurd .key (nameless.not_within _)
  | stringMore | stringEnd => exact absurd .string (nameless.not_within _)
  | numberMore read => subst is; exact absurd read (Numeral.step_ne_more (by decide) (by decide))
  | numberEnd _ _ settled step =>
    subst is
    exact absurd (separator_of_behind (.value (settled_of_settle settled)) step) (by decide)
  | brace | bracket | listEmpty | listComma | listEnd | objectEmpty | objectComma | objectEnd
  | colon => exact absurd is (by decide)

/-- A quote right behind the opening one leaves an empty string. -/
theorem nameless_of_closing {root : Root} {r next : Reader} {stack : List Frame}
    (nameless : Nameless r) (expects : Expects r stack)
    (h : Step root ⟨stack, .string .start⟩ '"' next) : Nameless next := by
  have closes : Quotation.step .start '"' = .ok (.closed []) := rfl
  generalize is : '"' = c at h
  cases h with
  | stringMore read =>
    rw [← is, closes] at read
    cases read
  | stringEnd read settled =>
    rw [← is, closes] at read
    cases read
    exact nameless_of_settle (frames_of_expects nameless expects) (by simp) settled
  | blank idle => cases idle
  | brace within | bracket within | quote within | letter within | digit within => cases within
  | keyQuote due => cases due

theorem nameless_of_closing_key {root : Root} {r next : Reader} {members : Members}
    (nameless : Nameless r) (due : KeyDue r.mode members)
    (h : Step root ⟨r.stack, .keyString members .start⟩ '"' next) : Nameless next := by
  have closes : Quotation.step .start '"' = .ok (.closed []) := rfl
  generalize is : '"' = c at h
  cases h with
  | keyMore read =>
    rw [← is, closes] at read
    cases read
  | keyEnd read =>
    rw [← is, closes] at read
    cases read
    exact ⟨nameless.frames, .colon (members_of_keyDue nameless.mode due)⟩
  | blank idle => cases idle
  | brace within | bracket within | quote within | letter within | digit within => cases within
  | keyQuote due => cases due

theorem nameless_run {root : Root} {r next : Reader} {text : Text} (nameless : Nameless r)
    (h : run root r (doubled text) = .ok next) : Nameless next := by
  induction text generalizing r with
  | nil =>
    obtain rfl := Except.ok.inj h
    exact nameless
  | cons c rest ih =>
    by_cases quote : c = '"'
    · rw [quote, Payload.DoubledQuotes.doubled_quote] at h
      obtain ⟨mid, first, h⟩ := run_cons_ok h
      obtain ⟨closed, second, h⟩ := run_cons_ok h
      apply ih _ h
      rcases opened_of_quote nameless (step_ok first) with ⟨stack, expects, rfl⟩ | ⟨_, due, rfl⟩
      · exact nameless_of_closing nameless expects (step_ok second)
      · exact nameless_of_closing_key nameless due (step_ok second)
    · rw [Payload.DoubledQuotes.doubled_cons quote] at h
      obtain ⟨mid, moved, h⟩ := run_cons_ok h
      exact ih (nameless_step nameless quote (step_ok moved)) h

end Reader

/-- An object that is read with every quote in it written twice has no key but the empty one. -/
theorem nameless_of_readObject {text : Text} {fields : Members}
    (accepted : readObject (doubled text) = .ok fields) : Members.Nameless fields := by
  obtain ⟨r, run, finish⟩ := run_of_read (read_of_readObject accepted)
  have start : Reader.Nameless .start := ⟨List.forall_mem_nil _, .value⟩
  have nameless := Reader.nameless_run start run
  have last := nameless.mode
  rw [Reader.complete_of_finish finish] at last
  cases last with
  | complete members => exact members fields rfl

end OrderReplay.Json
