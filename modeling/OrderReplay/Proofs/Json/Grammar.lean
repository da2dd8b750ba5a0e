import Mathlib.Algebra.Order.Field.Rat
import OrderReplay.Json.Value

/-! JSON texts by their grammar, apart from any reader. What a text spells is a tree whose
numbers are numerals as they stand in the text; the value of a numeral is exact. -/
namespace OrderReplay.Json

def Blank (text : Text) : Prop := ∀ c ∈ text, c ∈ [' ', '\t', '\n', '\r']

def Digits (text : Text) : Prop := ∀ c ∈ text, (Text.digit? c).isSome = true

def ofDigits (digits : Text) : Nat := digits.foldl (fun n c => n * 10 + (Text.digit? c).getD 0) 0

structure Power where
  capital : Bool
  /-- A plus sign, a minus sign, or none. -/
  negative? : Option Bool
  digits : Text
  deriving DecidableEq

namespace Power

def text (p : Power) : Text :=
  (if p.capital then 'E' else 'e') :: match p.negative? with
    | none => p.digits
    | some false => '+' :: p.digits
    | some true => '-' :: p.digits

def value (p : Power) : Int :=
  if p.negative? = some true then -(ofDigits p.digits : Int) else ofDigits p.digits

structure Lawful (p : Power) : Prop where
  digits : Digits p.digits
  present : p.digits ≠ []

end Power

structure Numeral where
  negative : Bool
  whole : Text
  /-- What stands behind the point, if there is a point. -/
  fraction? : Option Text
  power? : Option Power
  deriving DecidableEq

namespace Numeral

def text (n : Numeral) : Text :=
  (if n.negative then ['-'] else []) ++ n.whole ++ n.fraction?.elim [] ('.' :: ·) ++
    n.power?.elim [] Power.text

structure Lawful (n : Numeral) : Prop where
  whole : Digits n.whole
  present : n.whole ≠ []
  /-- A zero begins no longer numeral. -/
  leading : n.whole.head? = some '0' → n.whole = ['0']
  fraction : ∀ f ∈ n.fraction?, Digits f ∧ f ≠ []
  power : ∀ p ∈ n.power?, p.Lawful

def significand (n : Numeral) : Nat := ofDigits (n.whole ++ n.fraction?.getD [])

def exponent (n : Numeral) : Int := n.power?.elim 0 Power.value - (n.fraction?.getD []).length

def value (n : Numeral) : ℚ :=
  (bif n.negative then -1 else 1) * n.significand * 10 ^ n.exponent

end Numeral

def FourDigits (digits : Text) (unit : Nat) : Prop :=
  ∃ a b c d w x y z, digits = [a, b, c, d] ∧ Text.hexDigit? a = some w ∧
    Text.hexDigit? b = some x ∧ Text.hexDigit? c = some y ∧ Text.hexDigit? d = some z ∧
    unit = ((w * 16 + x) * 16 + y) * 16 + z

def shortEscapes : List (Char × Char) :=
  [('"', '"'), ('\\', '\\'), ('/', '/'), ('b', '\x08'), ('f', '\x0c'), ('n', '\n'), ('r', '\r'),
    ('t', '\t')]

inductive Letter : Text → Char → Prop where
  | plain {c} (free : c ≠ '"' ∧ c ≠ '\\') (printed : 0x20 ≤ c.toNat) : Letter [c] c
  | short {mark c} (named : (mark, c) ∈ shortEscapes) : Letter ['\\', mark] c
  | unit {digits n} (hex : FourDigits digits n) (scalar : n < 0xD800 ∨ 0xDFFF < n) :
      Letter ('\\' :: 'u' :: digits) (Char.ofNat n)
  | pair {first second high low} (leads : FourDigits first high) (trails : FourDigits second low)
      (upper : 0xD800 ≤ high ∧ high ≤ 0xDBFF) (lower : 0xDC00 ≤ low ∧ low ≤ 0xDFFF) :
      Letter ('\\' :: 'u' :: first ++ '\\' :: 'u' :: second)
        (Char.ofNat (0x10000 + (high - 0xD800) * 0x400 + (low - 0xDC00)))

/-- Values over any kind of numbers. -/
inductive Tree (ν : Type) where
  | null
  | bool (value : Bool)
  | number (value : ν)
  | string (text : Text)
  | list (items : List (Tree ν))
  | object (members : List (Text × Tree ν))

namespace Tree

variable {ν μ : Type}

mutual
def map (f : ν → μ) : Tree ν → Tree μ
  | .null => .null
  | .bool b => .bool b
  | .number n => .number (f n)
  | .string text => .string text
  | .list items => .list (mapItems f items)
  | .object members => .object (mapMembers f members)

def mapItems (f : ν → μ) : List (Tree ν) → List (Tree μ)
  | [] => []
  | item :: rest => item.map f :: mapItems f rest

def mapMembers (f : ν → μ) : List (Text × Tree ν) → List (Text × Tree μ)
  | [] => []
  | (key, value) :: rest => (key, value.map f) :: mapMembers f rest
end

inductive All (p : ν → Prop) : Tree ν → Prop where
  | null : All p .null
  | bool {b} : All p (.bool b)
  | number {n} (holds : p n) : All p (.number n)
  | string {text} : All p (.string text)
  | list {items} (each : ∀ item ∈ items, All p item) : All p (.list items)
  | object {members : List (Text × Tree ν)} (each : ∀ m ∈ members, All p m.2) :
      All p (.object members)

theorem mapItems_eq (f : ν → μ) (items : List (Tree ν)) : mapItems f items = items.map (map f) := by
  induction items with
  | nil => rw [mapItems, List.map_nil]
  | cons item rest ih => rw [mapItems, ih, List.map_cons]

theorem mapMembers_eq (f : ν → μ) (members : List (Text × Tree ν)) :
    mapMembers f members = members.map fun m => (m.1, m.2.map f) := by
  induction members with
  | nil => rw [mapMembers, List.map_nil]
  | cons m rest ih => rw [mapMembers, ih, List.map_cons]

end Tree

def lastUnder {α : Type} (key : Text) : List (Text × α) → Option α
  | [] => none
  | (name, value) :: rest => (lastUnder key rest).or (if name = key then some value else none)

/-- Members as an object has them: each key at its first place, with its last value. -/
def merged {α : Type} : List (Text × α) → List (Text × α)
  | [] => []
  | (key, value) :: rest =>
    (key, (lastUnder key rest).getD value) :: (merged rest).filter (·.1 ≠ key)

section Merged

variable {α β : Type}

theorem mem_of_lastUnder {key : Text} {value : α} {members : List (Text × α)}
    (h : lastUnder key members = some value) : (key, value) ∈ members := by
  induction members with
  | nil => cases h
  | cons m rest ih =>
    obtain ⟨name, old⟩ := m
    rw [lastUnder, Option.or_eq_some_iff] at h
    rcases h with later | ⟨_, here⟩
    · exact List.mem_cons_of_mem _ (ih later)
    · split at here
      next same =>
        obtain rfl := Option.some.inj here
        exact same ▸ List.mem_cons_self ..
      next => cases here

theorem mem_of_merged {m : Text × α} {members : List (Text × α)} (h : m ∈ merged members) :
    m ∈ members := by
  induction members with
  | nil => cases h
  | cons head rest ih =>
    obtain ⟨key, value⟩ := head
    rw [merged, List.mem_cons] at h
    rcases h with rfl | later
    · cases last : lastUnder key rest with
      | none => exact List.mem_cons_self ..
      | some other => exact List.mem_cons_of_mem _ (mem_of_lastUnder last)
    · exact List.mem_cons_of_mem _ (ih (List.mem_filter.1 later).1)

theorem lastUnder_concat (key name : Text) (value : α) (members : List (Text × α)) :
    lastUnder key (members ++ [(name, value)]) =
      if name = key then some value else lastUnder key members := by
  induction members with
  | nil => simp [lastUnder]
  | cons m rest ih =>
    rw [List.cons_append, lastUnder, ih, lastUnder]
    split <;> simp

theorem lastUnder_map (f : α → β) (key : Text) (members : List (Text × α)) :
    lastUnder key (members.map fun m => (m.1, f m.2)) = (lastUnder key members).map f := by
  induction members with
  | nil => rfl
  | cons m rest ih =>
    rw [List.map_cons, lastUnder, ih, lastUnder]
    cases lastUnder key rest <;> simp [apply_ite (Option.map f)]

theorem merged_map (f : α → β) (members : List (Text × α)) :
    merged (members.map fun m => (m.1, f m.2)) = (merged members).map fun m => (m.1, f m.2) := by
  induction members with
  | nil => rfl
  | cons m rest ih =>
    rw [List.map_cons, merged, ih, merged, lastUnder_map, List.map_cons, List.filter_map]
    cases lastUnder m.1 rest <;> rfl

theorem filter_put {key name : Text} (value : Value) (members : Members) (other : name ≠ key) :
    (members.put name value).filter (·.1 ≠ key) =
      Members.put name value (members.filter (·.1 ≠ key)) := by
  induction members with
  | nil => simp [Members.put, other]
  | cons m rest ih =>
    obtain ⟨first, old⟩ := m
    by_cases same : first = name
    · simp [Members.put, same, other]
    · by_cases here : first = key
      · subst here
        simpa [Members.put, same] using ih
      · simpa [Members.put, same, here] using ih

theorem filter_put_self (key : Text) (value : Value) (members : Members) :
    (members.put key value).filter (·.1 ≠ key) = members.filter (·.1 ≠ key) := by
  induction members with
  | nil => simp [Members.put]
  | cons m rest ih =>
    obtain ⟨first, old⟩ := m
    by_cases same : first = key
    · simp [Members.put, same]
    · simpa [Members.put, same] using ih

theorem merged_concat (members : Members) (key : Text) (value : Value) :
    merged (members ++ [(key, value)]) = Members.put key value (merged members) := by
  induction members with
  | nil => rfl
  | cons m rest ih =>
    obtain ⟨first, old⟩ := m
    rw [List.cons_append, merged, ih, lastUnder_concat, merged]
    by_cases same : key = first
    · subst same
      rw [if_pos rfl, filter_put_self]
      simp [Members.put]
    · have other : first ≠ key := fun equal => same equal.symm
      rw [if_neg same, filter_put value _ same]
      simp [Members.put, other]

end Merged

structure Spelling where
  keyText : Text
  key : Text
  valueText : Text
  value : Tree Numeral

def Spelling.text (m : Spelling) : Text := m.keyText ++ ':' :: m.valueText
def Spelling.member (m : Spelling) : Text × Tree Numeral := (m.key, m.value)

/-- What a text spells. Blanks may stand around every value and every key. -/
inductive Spells : Text → Tree Numeral → Prop where
  | blank {before text behind tree} (left : Blank before) (right : Blank behind)
      (core : Spells text tree) : Spells (before ++ text ++ behind) tree
  | null : Spells ['n', 'u', 'l', 'l'] .null
  | true : Spells ['t', 'r', 'u', 'e'] (.bool true)
  | false : Spells ['f', 'a', 'l', 's', 'e'] (.bool false)
  | number {n : Numeral} (lawful : n.Lawful) : Spells n.text (.number n)
  | string {letters : List (Text × Char)} (each : ∀ l ∈ letters, Letter l.1 l.2) :
      Spells ('"' :: letters.flatMap Prod.fst ++ ['"']) (.string (letters.map Prod.snd))
  | emptyList {blank} (only : Blank blank) : Spells ('[' :: blank ++ [']']) (.list [])
  | list {items : List (Text × Tree Numeral)} (present : items ≠ [])
      (each : ∀ i ∈ items, Spells i.1 i.2) :
      Spells ('[' :: [','].intercalate (items.map Prod.fst) ++ [']']) (.list (items.map Prod.snd))
  | emptyObject {blank} (only : Blank blank) : Spells ('\x7b' :: blank ++ ['\x7d']) (.object [])
  | object {members : List Spelling} (present : members ≠ [])
      (keys : ∀ m ∈ members, Spells m.keyText (.string m.key))
      (values : ∀ m ∈ members, Spells m.valueText m.value) :
      Spells ('\x7b' :: [','].intercalate (members.map Spelling.text) ++ ['\x7d'])
        (.object (merged (members.map Spelling.member)))

end OrderReplay.Json
