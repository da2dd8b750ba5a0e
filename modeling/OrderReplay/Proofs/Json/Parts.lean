import Mathlib.Data.List.Induction
import OrderReplay.Proofs.Json.Lexemes

/-! The value that a tree of numerals is read as, and texts of lists and objects put together
from their parts: the first one, and the rest up to the closing character. -/
namespace OrderReplay.Json

namespace Numeral

def Phase.run : Phase → Text → Option Phase
  | phase, [] => some phase
  | phase, c :: rest =>
    match step phase c with
    | .ok (some next) => next.run rest
    | _ => none

/-- The number that a numeral is read as, if it is in range. -/
def number? (n : Numeral) : Option Number :=
  match n.text with
  | [] => none
  | c :: rest => do
    let (negative, phase) ← start? c
    let last ← phase.run rest
    (finish negative last).toOption

def number (n : Numeral) : Number := n.number?.getD (.integer 0)

theorem run_of_goes {phase last : Phase} {text : Text} (goes : Goes Moves phase text last) :
    phase.run text = some last := by
  induction goes with
  | done => rfl
  | more move _ ih =>
    unfold Moves at move
    rw [Phase.run, move]
    exact ih

theorem number?_of_goes {n : Numeral} {c : Char} {negative : Bool} {phase last : Phase}
    {text : Text} {number : Number} (spelled : n.text = c :: text)
    (starts : start? c = some (negative, phase)) (goes : Goes Moves phase text last)
    (finished : finish negative last = .ok number) : n.number? = some number := by
  simp [number?, spelled, starts, run_of_goes goes, finished, Except.toOption]

end Numeral

namespace Tree

mutual
def read : Tree Numeral → Value
  | .null => .null
  | .bool b => .bool b
  | .number n => .number n.number
  | .string text => .string text
  | .list items => .list (readItems items)
  | .object members => .object (readMembers members)

def readItems : List (Tree Numeral) → List Value
  | [] => []
  | item :: rest => item.read :: readItems rest

def readMembers : List (Text × Tree Numeral) → List (Text × Value)
  | [] => []
  | (key, value) :: rest => (key, value.read) :: readMembers rest
end

theorem readItems_eq (items : List (Tree Numeral)) : readItems items = items.map read := by
  induction items with
  | nil => rw [readItems, List.map_nil]
  | cons item rest ih => rw [readItems, ih, List.map_cons]

theorem readMembers_eq (members : List (Text × Tree Numeral)) :
    readMembers members = members.map fun m => (m.1, m.2.read) := by
  induction members with
  | nil => rw [readMembers, List.map_nil]
  | cons m rest ih => rw [readMembers, ih, List.map_cons]

end Tree

/-- A text that spells a tree, each numeral of which is in range. -/
structure Gives (text : Text) (tree : Tree Numeral) : Prop where
  spells : Spells text tree
  known : tree.All fun n => n.number?.isSome = true

def GivesMember (text : Text) (member : Text × Tree Numeral) : Prop :=
  ∃ keyText valueText, text = keyText ++ ':' :: valueText ∧
    Spells keyText (.string member.1) ∧ Gives valueText member.2

theorem blank_nil : Blank [] := by simp [Blank]

theorem Gives.behind {text blank : Text} {tree : Tree Numeral} (h : Gives text tree)
    (only : Blank blank) : Gives (text ++ blank) tree :=
  ⟨.blank blank_nil only h.spells, h.known⟩

theorem Gives.before {text blank : Text} {tree : Tree Numeral} (only : Blank blank)
    (h : Gives text tree) : Gives (blank ++ text) tree := by
  have spells := Spells.blank only blank_nil h.spells
  rw [List.append_nil] at spells
  exact ⟨spells, h.known⟩

theorem GivesMember.behind {text blank : Text} {member : Text × Tree Numeral}
    (h : GivesMember text member) (only : Blank blank) : GivesMember (text ++ blank) member := by
  obtain ⟨keyText, valueText, rfl, key, value⟩ := h
  exact ⟨keyText, valueText ++ blank, by simp, key, value.behind only⟩

/-- Behind an item or a member: others, each with its comma, and the closing character, up to
what stands behind that. -/
inductive Rest {β : Type} (close : Char) (part : Text → β → Prop) :
    Text → List β → Text → Prop where
  | close {blank behind} (only : Blank blank) : Rest close part (blank ++ close :: behind) [] behind
  | more {blank text rest content contents behind} (only : Blank blank)
      (first : part text content) (later : Rest close part rest contents behind) :
      Rest close part (blank ++ ',' :: (text ++ rest)) (content :: contents) behind

theorem Rest.cons {β : Type} {close : Char} {part : Text → β → Prop} {c : Char} {text behind : Text}
    {contents : List β} (blank : c ∈ [' ', '\t', '\n', '\r'])
    (h : Rest close part text contents behind) : Rest close part (c :: text) contents behind := by
  cases h with
  | close only => exact .close (List.forall_mem_cons.2 ⟨blank, only⟩)
  | more only first later => exact .more (List.forall_mem_cons.2 ⟨blank, only⟩) first later

theorem parts_of_rest {β : Type} {close : Char} {part : Text → β → Prop}
    (pads : ∀ {text blank content}, part text content → Blank blank → part (text ++ blank) content)
    {text rest behind : Text} {content : β} {contents : List β} (first : part text content)
    (h : Rest close part rest contents behind) :
    ∃ parts : List (Text × β), parts ≠ [] ∧ parts.map Prod.snd = content :: contents ∧
      text ++ rest = [','].intercalate (parts.map Prod.fst) ++ close :: behind ∧
      ∀ p ∈ parts, part p.1 p.2 := by
  induction h generalizing text content with
  | @close blank _ only =>
    refine ⟨[(text ++ blank, content)], by simp, rfl, ?_, ?_⟩
    · simp
    · simpa using pads first only
  | @more blank next rest other others behind only second _ ih =>
    obtain ⟨parts, some, same, split, each⟩ := ih second
    obtain ⟨p, parts, rfl⟩ := List.exists_cons_of_ne_nil some
    refine ⟨(text ++ blank, content) :: p :: parts, by simp, by simp [← same], ?_, ?_⟩
    · rw [split]
      simp
    · exact List.forall_mem_cons.2 ⟨pads first only, each⟩

theorem gives_list {text rest behind : Text} {tree : Tree Numeral} {trees : List (Tree Numeral)}
    (first : Gives text tree) (h : Rest ']' Gives rest trees behind) :
    ∃ inner, text ++ rest = inner ++ ']' :: behind ∧
      Gives ('[' :: inner ++ [']']) (.list (tree :: trees)) := by
  obtain ⟨items, some, same, split, each⟩ := parts_of_rest (fun h only => h.behind only) first h
  refine ⟨_, split, ?_, .list ?_⟩
  · rw [← same]
    exact .list some fun i member => (each i member).spells
  · rw [← same]
    intro item member
    obtain ⟨i, listed, rfl⟩ := List.mem_map.1 member
    exact (each i listed).known

theorem spellings_of_parts {parts : List (Text × Text × Tree Numeral)}
    (each : ∀ p ∈ parts, GivesMember p.1 p.2) :
    ∃ spellings : List Spelling, spellings.map Spelling.text = parts.map Prod.fst ∧
      spellings.map Spelling.member = parts.map Prod.snd ∧
      (∀ m ∈ spellings, Spells m.keyText (.string m.key)) ∧
      ∀ m ∈ spellings, Gives m.valueText m.value := by
  induction parts with
  | nil => exact ⟨[], rfl, rfl, by simp, by simp⟩
  | cons p rest ih =>
    obtain ⟨here, later⟩ := List.forall_mem_cons.1 each
    obtain ⟨spellings, texts, members, keys, values⟩ := ih later
    obtain ⟨keyText, valueText, text, key, value⟩ := here
    refine ⟨⟨keyText, p.2.1, valueText, p.2.2⟩ :: spellings, ?_, ?_,
      List.forall_mem_cons.2 ⟨key, keys⟩, List.forall_mem_cons.2 ⟨value, values⟩⟩
    · rw [List.map_cons, texts, List.map_cons, text]
      rfl
    · rw [List.map_cons, members, List.map_cons]
      rfl

theorem gives_object {text rest behind : Text} {member : Text × Tree Numeral}
    {members : List (Text × Tree Numeral)} (first : GivesMember text member)
    (h : Rest '\x7d' GivesMember rest members behind) :
    ∃ inner, text ++ rest = inner ++ '\x7d' :: behind ∧
      Gives ('\x7b' :: inner ++ ['\x7d']) (.object (merged (member :: members))) := by
  obtain ⟨parts, some, same, split, each⟩ := parts_of_rest (fun h only => h.behind only) first h
  obtain ⟨spellings, texts, listed, keys, values⟩ := spellings_of_parts each
  have present : spellings ≠ [] := by
    rintro rfl
    exact some (List.map_eq_nil_iff.1 texts.symm)
  refine ⟨_, split, ?_, .object ?_⟩
  · rw [← same, ← texts, ← listed]
    exact .object present keys fun m member => (values m member).spells
  · rw [← same, ← listed]
    intro m merged
    obtain ⟨spelling, member, rfl⟩ := List.mem_map.1 (mem_of_merged merged)
    exact (values spelling member).known

def assign (members : Members) (more : List (Text × Tree Numeral)) : Members :=
  more.foldl (fun members m => members.put m.1 m.2.read) members

theorem assign_append (members : Members) (a b : List (Text × Tree Numeral)) :
    assign members (a ++ b) = assign (assign members a) b :=
  List.foldl_append

theorem assign_nil (members : List (Text × Tree Numeral)) :
    assign [] members = (merged members).map fun m => (m.1, m.2.read) := by
  rw [← merged_map]
  induction members using List.reverseRecOn with
  | nil => rfl
  | append_singleton front m ih =>
    rw [assign_append, ih, List.map_append]
    exact (merged_concat _ _ _).symm

end OrderReplay.Json
