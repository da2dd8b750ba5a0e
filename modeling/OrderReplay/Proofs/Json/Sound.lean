import OrderReplay.Proofs.Json.Step

/-! What every value has that was read: integers within their ranges, no key twice in one
object, and no more containers one within another than may be open at once. -/
namespace OrderReplay.Json

def Number.Held : Number → Prop
  | .integer v => -(Numeral.negativeLimit : Int) ≤ v ∧ v < Numeral.significandLimit
  | .real _ => True

/-- A value that can be read where so many more containers may be opened. -/
inductive Value.Sound : Nat → Value → Prop where
  | null {room} : Sound room .null
  | bool {room b} : Sound room (.bool b)
  | number {room n} (held : n.Held) : Sound room (.number n)
  | string {room text} : Sound room (.string text)
  | list {room items} (each : ∀ item ∈ items, Sound room item) : Sound (room + 1) (.list items)
  | object {room} {members : Members} (keys : (members.map Prod.fst).Nodup)
      (each : ∀ m ∈ members, Sound room m.2) : Sound (room + 1) (.object members)

structure Members.Sound (room : Nat) (members : Members) : Prop where
  keys : (members.map Prod.fst).Nodup
  each : ∀ m ∈ members, m.2.Sound room

theorem Members.sound_nil (room : Nat) : Members.Sound room [] :=
  ⟨List.nodup_nil, by simp⟩

theorem Members.mem_put {key : Text} {value : Value} {members : Members} {m : Text × Value}
    (h : m ∈ members.put key value) : m ∈ members ∨ m.2 = value := by
  induction members with
  | nil =>
    obtain rfl : m = (key, value) := by simpa [put] using h
    exact .inr rfl
  | cons head rest ih =>
    obtain ⟨name, old⟩ := head
    unfold put at h
    split at h
    · rcases List.mem_cons.1 h with rfl | member
      · exact .inr rfl
      · exact .inl (List.mem_cons_of_mem _ member)
    · rcases List.mem_cons.1 h with rfl | member
      · exact .inl (List.mem_cons_self ..)
      · exact (ih member).imp_left (List.mem_cons_of_mem _)

theorem Members.Sound.put {room : Nat} {members : Members} (sound : members.Sound room)
    {value : Value} (held : value.Sound room) (key : Text) :
    (members.put key value).Sound room := by
  constructor
  · rw [keys_put]
    split
    · exact sound.keys
    next fresh => exact List.nodup_append.2 ⟨sound.keys, by simp, by
        intro name member other same
        obtain rfl := List.mem_singleton.1 same
        exact fun equal => fresh (equal ▸ member)⟩
  · intro m member
    rcases mem_put member with old | new
    · exact sound.each m old
    · exact new ▸ held

namespace Numeral

def Phase.Held : Phase → Prop
  | .integer n => n < significandLimit
  | _ => True

theorem digit?_lt {c : Char} {d : Nat} (h : Text.digit? c = some d) : d < 10 := by
  unfold Text.digit? at h
  split at h
  next within =>
    have high : c.toNat ≤ '9'.toNat := within.2
    have zero : '0'.toNat = 48 := rfl
    have nine : '9'.toNat = 57 := rfl
    obtain rfl := Option.some.inj h
    omega
  next => cases h

theorem held_of_afterInteger {s : Scaled} {c : Char} {next : Phase}
    (h : afterInteger s c = some next) : next.Held := by
  unfold afterInteger at h
  split at h
  · obtain rfl := Option.some.inj h
    trivial
  · split at h
    · obtain rfl := Option.some.inj h
      trivial
    · cases h

theorem held_of_afterFraction {s : Scaled} {c : Char} {next : Phase}
    (h : afterFraction s c = some next) : next.Held := by
  unfold afterFraction at h
  split at h
  · obtain rfl := Option.some.inj h
    trivial
  · cases h

theorem held_fractionDigit (s : Scaled) (digit : Nat) : (fractionDigit s digit).Held := by
  unfold fractionDigit
  split <;> trivial

theorem held_of_powerDigit {s : Scaled} {down : Bool} {digits digit : Nat} {next : Phase}
    (h : (powerDigit s down digits digit).map some = .ok (some next)) : next.Held := by
  unfold powerDigit at h
  split at h
  · obtain rfl := Option.some.inj (Except.ok.inj h)
    trivial
  · split at h
    · cases h
    · obtain rfl := Option.some.inj (Except.ok.inj h)
      trivial

theorem held_of_step {phase next : Phase} {c : Char} (h : step phase c = .ok (some next)) :
    next.Held := by
  have only {phase : Phase} (same : Except.ok (some phase) = (.ok (some next) : Except Flaw _)) :
      phase = next := Option.some.inj (Except.ok.inj same)
  cases digit : Text.digit? c with
  | none =>
    cases phase <;> simp only [step, digit] at h
    case sign | point | markSign => cases h
    case zero | integer | long => exact held_of_afterInteger (Except.ok.inj h)
    case fraction | faint => exact held_of_afterFraction (Except.ok.inj h)
    case power | vanished => cases h
    case mark =>
      split at h
      · obtain rfl := only h
        trivial
      · split at h
        · obtain rfl := only h
          trivial
        · cases h
  | some d =>
    have small := digit?_lt digit
    cases phase <;> simp only [step, digit] at h
    case sign =>
      cases d with
      | zero =>
        obtain rfl := only h
        trivial
      | succ d =>
        obtain rfl := only h
        exact Nat.lt_trans small (by decide)
    case zero => cases h
    case integer n =>
      split at h
      next fits =>
        obtain rfl := only h
        exact fits
      next =>
        obtain rfl := only h
        trivial
    case long | faint | vanished =>
      obtain rfl := only h
      trivial
    case point | fraction =>
      obtain rfl := only h
      exact held_fractionDigit ..
    case mark | markSign | power => exact held_of_powerDigit h

theorem held_of_start? {c : Char} {negative : Bool} {phase : Phase}
    (h : start? c = some (negative, phase)) : phase.Held := by
  unfold start? at h
  split at h
  next =>
    cases h
    trivial
  next d _ digit =>
    cases h
    exact Nat.lt_trans (digit?_lt digit) (by decide)
  next =>
    split at h
    · cases h
      trivial
    · cases h

theorem held_of_real {negative : Bool} {s : Scaled} {number : Number}
    (h : real negative s = .ok number) : number.Held := by
  unfold real at h
  generalize Binary64.ofDecimal? s.significand s.exponent = units? at h
  cases units? with
  | none => cases h
  | some units =>
    obtain rfl := Except.ok.inj h
    trivial

theorem held_of_integer {negative : Bool} {n : Nat} {number : Number} (fits : n < significandLimit)
    (h : integer negative n = .ok number) : number.Held := by
  cases negative with
  | false =>
    obtain rfl : Number.integer n = number := Except.ok.inj h
    simp only [Number.Held]
    omega
  | true =>
    by_cases large : n = 0 ∨ negativeLimit < n
    · rw [integer, if_pos rfl, if_pos large] at h
      exact held_of_real h
    · rw [integer, if_pos rfl, if_neg large] at h
      obtain rfl := Except.ok.inj h
      have positive : 0 < significandLimit := Nat.two_pow_pos 64
      simp only [Number.Held]
      omega

theorem held_of_finish {negative : Bool} {phase : Phase} {number : Number} (held : phase.Held)
    (h : finish negative phase = .ok number) : number.Held := by
  cases phase with
  | sign | point | mark | markSign => cases h
  | zero => exact held_of_integer (by decide) h
  | integer n => exact held_of_integer held h
  | long | fraction | faint | power =>
    simp only [finish] at h
    exact held_of_real h
  | vanished =>
    obtain rfl := Except.ok.inj h
    trivial

end Numeral

namespace Reader

inductive Nested : List Frame → Nat → Prop where
  | none : Nested [] depthLimit
  | list {outer room items} (nested : Nested outer (room + 1))
      (each : ∀ item ∈ items, Value.Sound room item) : Nested (.list items :: outer) room
  | object {outer room members key} (nested : Nested outer (room + 1))
      (held : Members.Sound room members) : Nested (.object members key :: outer) room

theorem Nested.length {stack : List Frame} {room : Nat} (nested : Nested stack room) :
    stack.length + room = depthLimit := by
  induction nested with
  | none => rfl
  | list _ _ ih => rw [List.length_cons, Nat.add_right_comm]; exact ih
  | object _ _ ih => rw [List.length_cons, Nat.add_right_comm]; exact ih

/-- What is held outside the stack. A container that is being read counts as opened. -/
def Holds (room : Nat) : Mode → Prop
  | .value | .string _ => True
  | .listStart | .objectStart => ∃ inner, room = inner + 1
  | .listNext items => ∃ inner, room = inner + 1 ∧ ∀ item ∈ items, item.Sound inner
  | .key members | .colon members _ | .objectNext members | .keyString members _ =>
    ∃ inner, room = inner + 1 ∧ members.Sound inner
  | .number _ phase => phase.Held
  | .literal _ value => value.Sound room
  | .complete value => value.Sound depthLimit

def Sound (r : Reader) : Prop := ∃ room, Nested r.stack room ∧ Holds room r.mode

theorem sound_start : Sound start := ⟨depthLimit, .none, trivial⟩

theorem sound_of_settle {root : Root} {value : Value} {stack : List Frame} {room : Nat}
    {r : Reader} (nested : Nested stack room) (held : value.Sound room)
    (h : settle root value stack = .ok r) : Sound r := by
  cases nested with
  | none =>
    simp only [settle] at h
    split at h
    · obtain rfl := Except.ok.inj h
      exact ⟨depthLimit, .none, held⟩
    · cases h
  | list outer each =>
    obtain rfl := Except.ok.inj h
    exact ⟨room + 1, outer, room, rfl, List.forall_mem_cons.2 ⟨held, each⟩⟩
  | object outer members =>
    obtain rfl := Except.ok.inj h
    exact ⟨room + 1, outer, room, rfl, members.put held _⟩

theorem nested_of_expects {r : Reader} {stack : List Frame} (expects : Expects r stack)
    (sound : Sound r) : ∃ room, Nested stack room := by
  obtain ⟨room, nested, holds⟩ := sound
  cases expects with
  | value => exact ⟨room, nested⟩
  | item =>
    obtain ⟨inner, rfl⟩ := holds
    exact ⟨inner, .list nested (by simp)⟩

theorem holds_of_keyDue {mode : Mode} {members : Members} {room : Nat} (due : KeyDue mode members)
    (holds : Holds room mode) : ∃ inner, room = inner + 1 ∧ members.Sound inner := by
  cases due with
  | first =>
    obtain ⟨inner, rfl⟩ := holds
    exact ⟨inner, rfl, Members.sound_nil inner⟩
  | later => exact holds

theorem sound_literal {name : Text} {value : Value} (room : Nat) (h : (name, value) ∈ literals) :
    value.Sound room := by
  simp only [literals, List.mem_cons, Prod.mk.injEq, List.not_mem_nil, or_false] at h
  rcases h with ⟨_, rfl⟩ | ⟨_, rfl⟩ | ⟨_, rfl⟩ <;> constructor

theorem sound_reverse {room : Nat} {items : List Value} (each : ∀ item ∈ items, item.Sound room) :
    (Value.list items.reverse).Sound (room + 1) :=
  .list fun item member => each item (List.mem_reverse.1 member)

theorem sound_step {root : Root} {r next : Reader} {c : Char} (sound : Sound r)
    (h : Step root r c next) : Sound next := by
  induction h with
  | blank => exact sound
  | brace expects shallow | bracket expects shallow =>
    obtain ⟨room, nested⟩ := nested_of_expects expects sound
    have size := nested.length
    exact ⟨room, nested, room - 1, by omega⟩
  | quote expects =>
    obtain ⟨room, nested⟩ := nested_of_expects expects sound
    exact ⟨room, nested, trivial⟩
  | letter expects name =>
    obtain ⟨room, nested⟩ := nested_of_expects expects sound
    exact ⟨room, nested, sound_literal room name⟩
  | digit expects first =>
    obtain ⟨room, nested⟩ := nested_of_expects expects sound
    exact ⟨room, nested, Numeral.held_of_start? first⟩
  | listEmpty settled =>
    obtain ⟨room, nested, inner, rfl⟩ := sound
    exact sound_of_settle nested (.list (by simp)) settled
  | listComma =>
    obtain ⟨room, nested, inner, rfl, each⟩ := sound
    exact ⟨inner, .list nested each, trivial⟩
  | listEnd settled =>
    obtain ⟨room, nested, inner, rfl, each⟩ := sound
    exact sound_of_settle nested (sound_reverse each) settled
  | objectEmpty settled =>
    obtain ⟨room, nested, inner, rfl⟩ := sound
    exact sound_of_settle nested (.object (Members.sound_nil inner).keys (by simp)) settled
  | objectComma | keyMore | keyEnd => exact sound
  | objectEnd settled =>
    obtain ⟨room, nested, inner, rfl, members⟩ := sound
    exact sound_of_settle nested (.object members.keys members.each) settled
  | keyQuote due =>
    obtain ⟨room, nested, holds⟩ := sound
    exact ⟨room, nested, holds_of_keyDue due holds⟩
  | colon =>
    obtain ⟨room, nested, inner, rfl, members⟩ := sound
    exact ⟨inner, .object nested members, trivial⟩
  | stringMore => exact sound
  | stringEnd _ settled =>
    obtain ⟨room, nested, _⟩ := sound
    exact sound_of_settle nested .string settled
  | literalMore => exact sound
  | literalEnd settled =>
    obtain ⟨room, nested, held⟩ := sound
    exact sound_of_settle nested held settled
  | numberMore read =>
    obtain ⟨room, nested, _⟩ := sound
    exact ⟨room, nested, Numeral.held_of_step read⟩
  | numberEnd _ finished settled _ ih =>
    obtain ⟨room, nested, held⟩ := sound
    exact ih (sound_of_settle nested (.number (Numeral.held_of_finish held finished)) settled)

theorem sound_run {root : Root} {r : Reader} {text : Text} (h : run root .start text = .ok r) :
    Sound r :=
  run_induction Sound sound_start (fun _ _ _ => sound_step) h

theorem sound_finish {root : Root} {r : Reader} {value : Value} (sound : Sound r)
    (h : finish root r = .ok value) : value.Sound depthLimit := by
  obtain ⟨stack, mode⟩ := r
  obtain ⟨room, nested, holds⟩ := sound
  cases mode with
  | complete value =>
    obtain rfl := Except.ok.inj h
    exact holds
  | number negative phase =>
    obtain ⟨number, finished, h⟩ := ok_of_bind h
    obtain ⟨behind, settled, h⟩ := ok_of_bind h
    obtain ⟨_, _, held⟩ :=
      sound_of_settle nested (.number (Numeral.held_of_finish holds finished)) settled
    split at h
    next mode =>
      obtain rfl := Except.ok.inj h
      rw [mode] at held
      exact held
    next => cases h
  | _ => cases h

end Reader

theorem sound_of_read {root : Root} {text : Text} {value : Value}
    (h : read root text = .ok value) : value.Sound Reader.depthLimit := by
  obtain ⟨r, run, finish⟩ := run_of_read h
  exact Reader.sound_finish (Reader.sound_run run) finish

end OrderReplay.Json
