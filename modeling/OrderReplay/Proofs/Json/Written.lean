import OrderReplay.Proofs.Json.Tokens

/-! The written form of a value reads back as that value, if its numbers are integers. The
induction is over the value; within a list or an object it goes along the items or members
that are still to be read, with those before them on the stack. -/
namespace OrderReplay.Json

mutual
def Value.numbers : Value → List Number
  | .number n => [n]
  | .list items => Value.numbersOfItems items
  | .object members => Value.numbersOfMembers members
  | _ => []

def Value.numbersOfItems : List Value → List Number
  | [] => []
  | item :: rest => item.numbers ++ Value.numbersOfItems rest

def Value.numbersOfMembers : List (Text × Value) → List Number
  | [] => []
  | (_, value) :: rest => value.numbers ++ Value.numbersOfMembers rest
end

theorem Value.numbers_of_item {item : Value} {items : List Value} (h : item ∈ items) :
    item.numbers ⊆ (Value.list items).numbers := by
  simp only [numbers]
  induction items with
  | nil => cases h
  | cons head rest ih =>
    rcases List.mem_cons.1 h with rfl | later
    · exact List.subset_append_left ..
    · exact List.Subset.trans (ih later) (List.subset_append_right ..)

theorem Value.numbersOfMembers_eq (members : Members) :
    numbersOfMembers members = numbersOfItems (members.map Prod.snd) := by
  induction members with
  | nil => rfl
  | cons m rest ih => rw [numbersOfMembers, List.map_cons, numbersOfItems, ih]

theorem Value.numbers_of_member {m : Text × Value} {members : Members} (h : m ∈ members) :
    m.2.numbers ⊆ (Value.object members).numbers := by
  rw [numbers, numbersOfMembers_eq]
  have item := numbers_of_item (List.mem_map_of_mem (f := Prod.snd) h)
  rw [numbers] at item
  exact item

def Value.Integral (value : Value) : Prop := ∀ n ∈ value.numbers, ∃ v, n = .integer v

theorem Value.Integral.number {n : Number} (integral : (Value.number n).Integral) :
    ∃ v, n = .integer v :=
  integral n (by simp [numbers])

theorem Value.Integral.item {item : Value} {items : List Value}
    (integral : (Value.list items).Integral) (h : item ∈ items) : item.Integral :=
  fun n member => integral n (numbers_of_item h member)

theorem Value.Integral.member {m : Text × Value} {members : Members}
    (integral : (Value.object members).Integral) (h : m ∈ members) : m.2.Integral :=
  fun n member => integral n (numbers_of_member h member)

theorem Value.writtenMembers_last (members : Members) :
    ∃ inner, Value.writtenMembers members = inner ++ ['\x7d'] := by
  induction members with
  | nil => exact ⟨[], by rw [Value.writtenMembers, List.nil_append]⟩
  | cons m rest ih =>
    obtain ⟨inner, last⟩ := ih
    rw [Value.writtenMembers, last]
    exact ⟨_, (List.append_assoc ..).symm⟩

theorem Value.written_braces (members : Members) :
    (Value.object members).written.head? = some '\x7b' ∧
      (Value.object members).written.getLast? = some '\x7d' := by
  cases members with
  | nil => exact ⟨by rw [Value.written]; rfl, by rw [Value.written]; rfl⟩
  | cons m rest =>
    obtain ⟨inner, last⟩ := Value.writtenMembers_last rest
    rw [Value.written, last]
    exact ⟨rfl, by rw [← List.append_assoc, List.getLast?_concat]⟩

theorem Members.put_of_not_mem {key : Text} {value : Value} {members : Members}
    (h : key ∉ members.map Prod.fst) : members.put key value = members ++ [(key, value)] := by
  induction members with
  | nil => rfl
  | cons head rest ih =>
    obtain ⟨name, old⟩ := head
    simp only [List.map_cons, List.mem_cons, not_or] at h
    rw [put, if_neg (Ne.symm h.1), ih h.2]
    rfl

namespace Reader

/-- Where so many containers may still be opened, the value is read from its written form. -/
def ReadsBack (room : Nat) (value : Value) : Prop :=
  ∀ (root : Root) (stack : List Frame) (c : Char) (rest : Text),
    stack.length + room ≤ depthLimit → Numeral.isEnd c = true →
    run root ⟨stack, .value⟩ (value.written ++ c :: rest) = settleThen root value stack (c :: rest)

theorem writtenItems_cons (items : List Value) :
    ∃ c rest, Value.writtenItems items = c :: rest ∧ Numeral.isEnd c = true := by
  cases items with
  | nil => exact ⟨_, _, by rw [Value.writtenItems], rfl⟩
  | cons item rest => exact ⟨_, _, by rw [Value.writtenItems]; rfl, rfl⟩

theorem writtenMembers_cons (members : Members) :
    ∃ c rest, Value.writtenMembers members = c :: rest ∧ Numeral.isEnd c = true := by
  cases members with
  | nil => exact ⟨_, _, by rw [Value.writtenMembers], rfl⟩
  | cons m rest => exact ⟨_, _, by rw [Value.writtenMembers]; rfl, rfl⟩

theorem run_item {room : Nat} {item : Value} (reads : ReadsBack room item) {root : Root}
    {stack : List Frame} (fits : stack.length + (room + 1) ≤ depthLimit) (items rest : List Value)
    (behind : Text) :
    run root ⟨.list items :: stack, .value⟩ (item.written ++ (Value.writtenItems rest ++ behind)) =
      run root ⟨stack, .listNext (item :: items)⟩ (Value.writtenItems rest ++ behind) := by
  obtain ⟨c, more, next, ends⟩ := writtenItems_cons rest
  have inside : (Frame.list items :: stack).length + room ≤ depthLimit := by
    rw [List.length_cons]
    omega
  rw [next, List.cons_append, reads _ _ _ _ inside ends]
  rfl

theorem run_items {room : Nat} {rest : List Value} (each : ∀ item ∈ rest, ReadsBack room item)
    (root : Root) {stack : List Frame} (fits : stack.length + (room + 1) ≤ depthLimit)
    (items : List Value) (behind : Text) :
    run root ⟨stack, .listNext items⟩ (Value.writtenItems rest ++ behind) =
      settleThen root (.list (items.reverse ++ rest)) stack behind := by
  induction rest generalizing items with
  | nil =>
    rw [Value.writtenItems, List.append_nil]
    exact run_settle rfl behind
  | cons item rest ih =>
    obtain ⟨first, later⟩ := List.forall_mem_cons.1 each
    have comma : step root ⟨stack, .listNext items⟩ ',' = .ok ⟨.list items :: stack, .value⟩ := rfl
    simp only [Value.writtenItems, List.cons_append, List.append_assoc]
    rw [run_cons comma, run_item first fits]
    have whole := ih later (item :: items)
    rw [List.reverse_cons, List.append_assoc] at whole
    exact whole

theorem run_member {room : Nat} {value : Value} (reads : ReadsBack room value) {root : Root}
    {stack : List Frame} (fits : stack.length + (room + 1) ≤ depthLimit) (members : Members)
    (key : Text) (rest : Members) (behind : Text) :
    run root ⟨stack, .colon members key⟩
        (':' :: (value.written ++ (Value.writtenMembers rest ++ behind))) =
      run root ⟨stack, .objectNext (members.put key value)⟩
        (Value.writtenMembers rest ++ behind) := by
  obtain ⟨c, more, next, ends⟩ := writtenMembers_cons rest
  have colon : step root ⟨stack, .colon members key⟩ ':' =
      .ok ⟨.object members key :: stack, .value⟩ := rfl
  have inside : (Frame.object members key :: stack).length + room ≤ depthLimit := by
    rw [List.length_cons]
    omega
  rw [run_cons colon, next, List.cons_append, reads _ _ _ _ inside ends]
  rfl

theorem run_members {room : Nat} {rest : Members} (each : ∀ m ∈ rest, ReadsBack room m.2)
    (root : Root) {stack : List Frame} (fits : stack.length + (room + 1) ≤ depthLimit)
    {members : Members} (keys : ((members ++ rest).map Prod.fst).Nodup) (behind : Text) :
    run root ⟨stack, .objectNext members⟩ (Value.writtenMembers rest ++ behind) =
      settleThen root (.object (members ++ rest)) stack behind := by
  induction rest generalizing members with
  | nil =>
    rw [Value.writtenMembers, List.append_nil]
    exact run_settle rfl behind
  | cons m rest ih =>
    obtain ⟨key, value⟩ := m
    obtain ⟨first, later⟩ := List.forall_mem_cons.1 each
    have comma : step root ⟨stack, .objectNext members⟩ ',' = .ok ⟨stack, .key members⟩ := rfl
    have quote : step root ⟨stack, .key members⟩ '"' = .ok ⟨stack, .keyString members .start⟩ :=
      rfl
    have fresh : key ∉ members.map Prod.fst := by
      intro member
      rw [List.map_append, List.nodup_append] at keys
      exact keys.2.2 key member key (List.mem_cons_self ..) rfl
    have same : members.put key value ++ rest = members ++ (key, value) :: rest := by
      rw [Members.put_of_not_mem fresh, List.append_assoc]
      rfl
    simp only [Value.writtenMembers, Quotation.render, List.cons_append, List.append_assoc,
      List.nil_append]
    rw [run_cons comma, run_cons quote, run_key, run_member first fits,
      ih later (same ▸ keys), same]

theorem step_bracket {root : Root} {stack : List Frame} (shallow : stack.length < depthLimit)
    (placed : ¬ (root = .object ∧ stack.isEmpty)) :
    step root ⟨stack, .value⟩ '[' = .ok ⟨stack, .listStart⟩ := by
  have space : isSpace '[' = false := by decide
  have brace : '[' ≠ '\x7b' := by decide
  simp only [step, space, beginValue, if_neg brace, if_neg placed, deepen, if_pos shallow, if_true,
    Bool.false_eq_true, if_false]

/-- A list where an object must stand is refused at its bracket, and so is the list itself. -/
theorem run_misplaced {root : Root} {stack : List Frame} {items : List Value}
    (misplaced : root = .object ∧ stack.isEmpty) (text behind : Text) :
    run root ⟨stack, .value⟩ ('[' :: text) = settleThen root (.list items) stack behind := by
  obtain ⟨rfl, empty⟩ := misplaced
  obtain rfl := List.isEmpty_iff.1 empty
  rfl

/-- What begins a value ends no list and is not passed over. -/
theorem written_cons {room : Nat} {value : Value} (sound : value.Sound room)
    (integral : value.Integral) :
    ∃ c rest, value.written = c :: rest ∧ isSpace c = false ∧ c ≠ ']' := by
  cases sound with
  | null => exact ⟨_, _, by rw [Value.written], rfl, by decide⟩
  | @bool _ b => cases b <;> exact ⟨_, _, by rw [Value.written], rfl, by decide⟩
  | @number _ n held =>
    obtain ⟨v, rfl⟩ := integral.number
    simp only [Value.written]
    cases v with
    | ofNat n =>
      have fits : n < Numeral.significandLimit := by simpa using held.2
      obtain ⟨c, d, rest, digits, digit⟩ := Numeral.ofNat_cons fits
      exact ⟨c, rest, digits, isSpace_of_digit digit, ne_of_digit digit rfl⟩
    | negSucc n => exact ⟨_, _, rfl, rfl, by decide⟩
  | string => exact ⟨_, _, by rw [Value.written]; rfl, rfl, by decide⟩
  | @list _ items each =>
    cases items with
    | nil => exact ⟨_, _, by rw [Value.written], rfl, by decide⟩
    | cons => exact ⟨_, _, by rw [Value.written]; rfl, rfl, by decide⟩
  | @object _ members keys each =>
    cases members with
    | nil => exact ⟨_, _, by rw [Value.written], rfl, by decide⟩
    | cons => exact ⟨_, _, by rw [Value.written]; rfl, rfl, by decide⟩

theorem step_item {root : Root} {stack : List Frame} {c : Char} (space : isSpace c = false)
    (more : c ≠ ']') :
    step root ⟨stack, .listStart⟩ c = step root ⟨.list [] :: stack, .value⟩ c := by
  simp [step, space, more]

theorem run_list {room : Nat} {items : List Value} (each : ∀ item ∈ items, ReadsBack room item)
    (sound : ∀ item ∈ items, item.Sound room) (integral : ∀ item ∈ items, item.Integral)
    (root : Root) {stack : List Frame} (fits : stack.length + (room + 1) ≤ depthLimit)
    (behind : Text) :
    run root ⟨stack, .value⟩ ((Value.list items).written ++ behind) =
      settleThen root (.list items) stack behind := by
  have shallow : stack.length < depthLimit := by omega
  by_cases placed : root = .object ∧ stack.isEmpty
  · cases items with
    | nil =>
      rw [Value.written]
      exact run_misplaced placed (']' :: behind) behind
    | cons first rest =>
      simp only [Value.written, List.cons_append]
      exact run_misplaced placed _ behind
  · have opens : step root ⟨stack, .value⟩ '[' = .ok ⟨stack, .listStart⟩ :=
      step_bracket shallow placed
    cases items with
    | nil =>
      rw [Value.written, List.cons_append, run_cons opens]
      exact run_settle rfl behind
    | cons first rest =>
      -- Behind its bracket a list might end or be blank, so what the item begins with matters.
      obtain ⟨c, text, begins, space, more⟩ := written_cons (sound first (List.mem_cons_self ..))
        (integral first (List.mem_cons_self ..))
      obtain ⟨reads, later⟩ := List.forall_mem_cons.1 each
      simp only [Value.written, List.cons_append, List.append_assoc]
      rw [run_cons opens, begins, List.cons_append, run, step_item space more, ← run,
        ← List.cons_append, ← begins, run_item reads fits, run_items later root fits]
      rfl

theorem run_object {room : Nat} {members : Members} (each : ∀ m ∈ members, ReadsBack room m.2)
    (keys : (members.map Prod.fst).Nodup) (root : Root) {stack : List Frame}
    (fits : stack.length + (room + 1) ≤ depthLimit) (behind : Text) :
    run root ⟨stack, .value⟩ ((Value.object members).written ++ behind) =
      settleThen root (.object members) stack behind := by
  have shallow : stack.length < depthLimit := by omega
  have opens : step root ⟨stack, .value⟩ '\x7b' = .ok ⟨stack, .objectStart⟩ := by
    have space : isSpace '\x7b' = false := by decide
    simp only [step, space, beginValue, deepen, if_pos shallow, if_true, Bool.false_eq_true,
      if_false]
  cases members with
  | nil =>
    rw [Value.written, List.cons_append, run_cons opens]
    exact run_settle rfl behind
  | cons m rest =>
    obtain ⟨key, value⟩ := m
    obtain ⟨reads, later⟩ := List.forall_mem_cons.1 each
    have quote : step root ⟨stack, .objectStart⟩ '"' = .ok ⟨stack, .keyString [] .start⟩ := rfl
    simp only [Value.written, Quotation.render, List.cons_append, List.append_assoc,
      List.nil_append]
    rw [run_cons opens, run_cons quote, run_key, run_member reads fits]
    exact run_members later root fits keys behind

theorem run_literal (root : Root) (stack : List Frame) {name : Text} {value : Value}
    (h : (name, value) ∈ literals) (rest : Text) :
    run root ⟨stack, .value⟩ (name ++ rest) = settleThen root value stack rest := by
  simp only [literals, List.mem_cons, Prod.mk.injEq, List.not_mem_nil, or_false] at h
  rcases h with ⟨rfl, rfl⟩ | ⟨rfl, rfl⟩ | ⟨rfl, rfl⟩
  · simp only [List.cons_append, List.nil_append]
    rw [run_cons rfl, run_cons rfl, run_cons rfl, run_settle rfl]
  · simp only [List.cons_append, List.nil_append]
    rw [run_cons rfl, run_cons rfl, run_cons rfl, run_settle rfl]
  · simp only [List.cons_append, List.nil_append]
    rw [run_cons rfl, run_cons rfl, run_cons rfl, run_cons rfl, run_settle rfl]

theorem readsBack_of_sound {room : Nat} {value : Value} (sound : value.Sound room)
    (integral : value.Integral) : ReadsBack room value := by
  induction sound with
  | null =>
    intro root stack c rest _ _
    rw [Value.written]
    exact run_literal root stack (by simp [literals]) (c :: rest)
  | @bool _ b =>
    intro root stack c rest _ _
    cases b
    all_goals
      rw [Value.written]
      exact run_literal root stack (by simp [literals]) (c :: rest)
  | number held =>
    intro root stack c rest _ ends
    obtain ⟨v, rfl⟩ := integral.number
    rw [Value.written]
    exact run_integer held root stack ends rest
  | string =>
    intro root stack c rest _ _
    rw [Value.written]
    exact run_string root stack _ (c :: rest)
  | list each ih =>
    intro root stack c rest fits _
    exact run_list (fun item member => ih item member (integral.item member)) each
      (fun _ => integral.item) root fits _
  | object keys each ih =>
    intro root stack c rest fits _
    exact run_object (fun m member => ih m member (integral.member member)) keys root fits _

end Reader

/-- An object that was read reads back from its written form. -/
theorem readObject_written {members : Members}
    (sound : (Value.object members).Sound Reader.depthLimit)
    (integral : (Value.object members).Integral) :
    readObject (Value.object members).written = .ok members := by
  generalize top : Reader.depthLimit = room at sound
  cases sound with
  | @object room _ keys each =>
    have reads (m : Text × Value) (member : m ∈ members) : Reader.ReadsBack room m.2 :=
      Reader.readsBack_of_sound (each m member) (integral.member member)
    have fits : ([] : List Frame).length + (room + 1) ≤ Reader.depthLimit := by simp [top]
    have run := Reader.run_object reads keys .object fits []
    rw [List.append_nil] at run
    have ends : Reader.settleThen .object (.object members) [] [] =
        .ok ⟨[], .complete (.object members)⟩ := rfl
    simp only [readObject, read, Reader.start, run, ends, bind, Except.bind, Reader.finish]

end OrderReplay.Json
