import OrderReplay.Proofs.Json.Carried
import OrderReplay.Proofs.Json.Unambiguous

/-! The text of an object with its members as they stand in it, those among them whose key comes
again. A text has one list of members at most, and an object is read as what they merge to. -/
namespace OrderReplay.Json

theorem get?_merged (key : Text) (members : Members) :
    Members.get? key (merged members) = lastUnder key members := by
  induction members using List.reverseRecOn with
  | nil => rfl
  | append_singleton front m ih =>
    obtain ⟨name, value⟩ := m
    rw [merged_concat, lastUnder_concat]
    by_cases same : name = key
    · rw [if_pos same, same]
      exact Members.get?_put_self ..
    · rw [if_neg same, ← ih]
      exact Members.get?_put_other _ _ _ _ (Ne.symm same)

theorem Members.mem_of_get? {key : Text} {value : Value} {members : Members}
    (found : members.get? key = some value) : (key, value) ∈ members := by
  induction members with
  | nil => cases found
  | cons m rest ih =>
    obtain ⟨name, old⟩ := m
    rw [Members.get?] at found
    split at found
    next same =>
      rw [same, Option.some.inj found]
      exact List.mem_cons_self
    next => exact List.mem_cons_of_mem _ (ih found)

theorem Members.get?_of_mem {key : Text} {value : Value} {members : Members}
    (keys : (members.map Prod.fst).Nodup) (listed : (key, value) ∈ members) :
    members.get? key = some value := by
  induction members with
  | nil => cases listed
  | cons m rest ih =>
    obtain ⟨fresh, keys⟩ := List.nodup_cons.1 keys
    rw [Members.get?]
    rcases List.mem_cons.1 listed with rfl | later
    · exact if_pos rfl
    · have other : m.1 ≠ key := fun same => fresh (same ▸ List.mem_map_of_mem later)
      rw [if_neg other]
      exact ih keys later

structure Spelled (text : Text) (members : List Spelling) : Prop where
  present : members ≠ []
  shape : ∃ before behind, Blank before ∧ Blank behind ∧ text =
    before ++ ('\x7b' :: [','].intercalate (members.map Spelling.text) ++ ['\x7d']) ++ behind
  keys : ∀ m ∈ members, Spells m.keyText (.string m.key)
  values : ∀ m ∈ members, Spells m.valueText m.value

namespace Spelled

variable {text : Text} {members others : List Spelling}

theorem spells (spelled : Spelled text members) :
    Spells text (.object (merged (members.map Spelling.member))) := by
  obtain ⟨before, behind, left, right, rfl⟩ := spelled.shape
  exact .blank left right (.object spelled.present spelled.keys spelled.values)

theorem member (spelled : Spelled text members) {m : Spelling} (listed : m ∈ members) :
    SpellsMember m.text m.member :=
  ⟨m, rfl, rfl, spelled.keys m listed, spelled.values m listed⟩

theorem unique (first : Spelled text members) (second : Spelled text others) :
    members.map Spelling.member = others.map Spelling.member := by
  obtain ⟨before, behind, left, -, shape⟩ := first.shape
  obtain ⟨before', behind', left', -, shape'⟩ := second.shape
  have braced : Reader.isSpace '\x7b' = false := rfl
  have same := congrArg skip (shape.symm.trans shape')
  simp only [List.append_assoc, List.cons_append, List.nil_append] at same
  rw [skip_append left, skip_append left', skip_cons braced, skip_cons braced] at same
  have one : Contents (fun a x => SpellsMember a x ∧ Determined SpellsMember a x)
      ([','].intercalate (members.map Spelling.text)) (members.map Spelling.member) := by
    refine members_contents first.present fun m listed => ⟨first.member listed, ?_⟩
    exact member_determined (determined (first.keys m listed)) (determined (first.values m listed))
  have other : Contents SpellsMember
      ([','].intercalate (others.map Spelling.text)) (others.map Spelling.member) :=
    members_contents second.present fun m listed => second.member listed
  exact (contents_unique (by simp) (fun h => unmarked_of_member h) one other
    (List.cons.inj same).2).1

end Spelled

/-- What stands between the braces of an object that is not empty. -/
theorem exists_spelled {text : Text} {members : List (Text × Tree Numeral)}
    (spells : Spells text (.object members)) (present : members ≠ []) :
    ∃ spellings, Spelled text spellings := by
  obtain ⟨before, core, behind, rfl, left, right, bare⟩ := bare_of_spells spells
  cases bare with
  | emptyObject => exact absurd rfl present
  | @object spellings some keys values =>
    exact ⟨spellings, some, ⟨before, behind, left, right, rfl⟩, keys, values⟩

/-- The members of an accepted object: those that are spelled, merged and read. -/
theorem fields_of_spelled {text : Text} {fields : Members} {spellings : List Spelling}
    (accepted : readObject text = .ok fields) (spelled : Spelled text spellings) :
    fields = merged ((spellings.map Spelling.member).map fun m => (m.1, m.2.read)) := by
  obtain ⟨tree, gives, same⟩ := gives_of_read (read_of_readObject accepted)
  rw [gives.spells.unique spelled.spells, Tree.read, Tree.readMembers_eq] at same
  rw [merged_map]
  exact Value.object.inj same

theorem spelled_of_readObject {text : Text} {fields : Members}
    (accepted : readObject text = .ok fields) (present : fields ≠ []) :
    ∃ spellings, Spelled text spellings := by
  obtain ⟨tree, gives, same⟩ := gives_of_read (read_of_readObject accepted)
  cases tree with
  | object members =>
    refine exists_spelled gives.spells ?_
    rintro rfl
    exact present (Value.object.inj same)
  | null | bool | number | string | list => cases same

theorem get?_of_spelled {text : Text} {fields : Members} {spellings : List Spelling}
    (accepted : readObject text = .ok fields) (spelled : Spelled text spellings) (key : Text) :
    fields.get? key = (lastUnder key (spellings.map Spelling.member)).map Tree.read := by
  rw [fields_of_spelled accepted spelled, get?_merged, lastUnder_map]

theorem spelled_written {room : Nat} {members : Members}
    (sound : (Value.object members).Sound room) (present : members ≠ []) :
    Spelled (Value.object members).written (members.map Spelling.ofMember) := by
  cases sound with
  | object _ each =>
    refine ⟨by simpa using present, ⟨[], [], blank_nil, blank_nil, ?_⟩, ?_, ?_⟩
    · obtain ⟨first, rest, rfl⟩ := List.exists_cons_of_ne_nil present
      have written := writtenMembers_eq first rest
      have texts : (first :: rest).map Value.writtenMember =
          ((first :: rest).map Spelling.ofMember).map Spelling.text := by
        rw [List.map_map]
        rfl
      rw [List.nil_append, List.append_nil, ← texts, List.cons_append, ← written]
      simp [Value.written, Value.writtenMember]
    · intro spelling listed
      obtain ⟨m, -, rfl⟩ := List.mem_map.1 listed
      exact spells_render m.1
    · intro spelling listed
      obtain ⟨m, member, rfl⟩ := List.mem_map.1 listed
      exact spells_written (each m member)

end OrderReplay.Json
