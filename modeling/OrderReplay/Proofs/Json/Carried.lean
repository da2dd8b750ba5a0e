import OrderReplay.Proofs.Json.Exact

/-! A text that is read, and what is written for the value read from it. The one spells a tree
of numerals and the other the same tree with each numeral as it is carried. -/
namespace OrderReplay.Json

namespace Tree

variable {ν μ ρ : Type}

mutual
theorem tree_read : (t : Tree Numeral) → t.read.tree = t.map Numeral.carried
  | .null => by rw [read, Value.tree, map]
  | .bool _ => by rw [read, Value.tree, map]
  | .number _ => by rw [read, Value.tree, map, Numeral.carried]
  | .string _ => by rw [read, Value.tree, map]
  | .list items => by rw [read, Value.tree, map, treeItems_read items]
  | .object members => by rw [read, Value.tree, map, treeMembers_read members]

theorem treeItems_read : (items : List (Tree Numeral)) →
    Value.treeItems (readItems items) = mapItems Numeral.carried items
  | [] => by rw [readItems, Value.treeItems, mapItems]
  | item :: rest => by
    rw [readItems, Value.treeItems, mapItems, tree_read item, treeItems_read rest]

theorem treeMembers_read : (members : List (Text × Tree Numeral)) →
    Value.treeMembers (readMembers members) = mapMembers Numeral.carried members
  | [] => by rw [readMembers, Value.treeMembers, mapMembers]
  | (key, value) :: rest => by
    rw [readMembers, Value.treeMembers, mapMembers, tree_read value, treeMembers_read rest]
end

theorem map_congr {f g : ν → μ} {t : Tree ν} (h : t.All fun n => f n = g n) :
    t.map f = t.map g := by
  induction h with
  | null | bool | string => rw [map, map]
  | number same => rw [map, map, same]
  | list _ ih => rw [map, map, mapItems_eq, mapItems_eq, List.map_congr_left ih]
  | @object members _ ih =>
    have same : ∀ m ∈ members, (m.1, m.2.map f) = (m.1, m.2.map g) := by
      intro m member
      rw [ih m member]
    rw [map, map, mapMembers_eq, mapMembers_eq, List.map_congr_left same]

mutual
theorem all_of_map_eq {f g : ν → μ} : (t : Tree ν) → t.map f = t.map g → t.All fun n => f n = g n
  | .null, _ => .null
  | .bool _, _ => .bool
  | .number _, h => by
    rw [map, map] at h
    exact .number (number.inj h)
  | .string _, _ => .string
  | .list items, h => by
    rw [map, map] at h
    exact .list (all_of_mapItems_eq items (list.inj h))
  | .object members, h => by
    rw [map, map] at h
    exact .object (all_of_mapMembers_eq members (object.inj h))

theorem all_of_mapItems_eq {f g : ν → μ} : (items : List (Tree ν)) →
    mapItems f items = mapItems g items → ∀ item ∈ items, item.All fun n => f n = g n
  | [], _ => by simp
  | first :: rest, h => by
    rw [mapItems, mapItems] at h
    obtain ⟨here, later⟩ := List.cons.inj h
    exact List.forall_mem_cons.2 ⟨all_of_map_eq first here, all_of_mapItems_eq rest later⟩

theorem all_of_mapMembers_eq {f g : ν → μ} : (members : List (Text × Tree ν)) →
    mapMembers f members = mapMembers g members → ∀ m ∈ members, m.2.All fun n => f n = g n
  | [], _ => by simp
  | (_, value) :: rest, h => by
    rw [mapMembers, mapMembers] at h
    obtain ⟨here, later⟩ := List.cons.inj h
    exact List.forall_mem_cons.2
      ⟨all_of_map_eq value (congrArg Prod.snd here), all_of_mapMembers_eq rest later⟩
end

/-- Over one shape, trees are equal if and only if their numbers are, place by place. -/
theorem map_eq_map_iff {f g : ν → μ} (t : Tree ν) : t.map f = t.map g ↔ t.All fun n => f n = g n :=
  ⟨all_of_map_eq t, map_congr⟩

theorem map_map (f : ν → μ) (g : μ → ρ) (t : Tree ν) :
    (t.map f).map g = t.map fun n => g (f n) := by
  -- The trivial statement about every number has the shape of the tree.
  have shape := all_of_map_eq t (rfl : t.map f = t.map f)
  induction shape with
  | null | bool | string => rw [map, map, map]
  | number => rw [map, map, map]
  | @list items _ ih =>
    have same : ∀ item ∈ items, (map g ∘ map f) item = item.map fun n => g (f n) := ih
    rw [map, map, map, mapItems_eq, mapItems_eq, mapItems_eq, List.map_map,
      List.map_congr_left same]
  | @object members _ ih =>
    have same : ∀ m ∈ members, ((fun m => (m.1, m.2.map g)) ∘ fun m => (m.1, m.2.map f)) m =
        (m.1, m.2.map fun n => g (f n)) := by
      intro m member
      rw [Function.comp_apply, ih m member]
    rw [map, map, map, mapMembers_eq, mapMembers_eq, mapMembers_eq, List.map_map,
      List.map_congr_left same]

theorem All.imp {p q : ν → Prop} {t : Tree ν} (h : t.All p) (holds : ∀ n, p n → q n) : t.All q := by
  induction h with
  | null => exact .null
  | bool => exact .bool
  | number here => exact .number (holds _ here)
  | string => exact .string
  | list _ ih => exact .list ih
  | object _ ih => exact .object ih

theorem All.and {p q : ν → Prop} {t : Tree ν} (first : t.All p) (second : t.All q) :
    t.All fun n => p n ∧ q n := by
  induction first with
  | null => exact .null
  | bool => exact .bool
  | number here =>
    cases second with
    | number also => exact .number ⟨here, also⟩
  | string => exact .string
  | list _ ih =>
    cases second with
    | list each => exact .list fun item member => ih item member (each item member)
  | object _ ih =>
    cases second with
    | object each => exact .object fun m member => ih m member (each m member)

end Tree

theorem lawful_of_spells {text : Text} {tree : Tree Numeral} (h : Spells text tree) :
    tree.All Numeral.Lawful := by
  induction h with
  | blank _ _ _ ih => exact ih
  | null => exact .null
  | true | false => exact .bool
  | number lawful => exact .number lawful
  | string => exact .string
  | emptyList => exact .list (by simp)
  | list _ _ ih =>
    refine .list fun item member => ?_
    obtain ⟨i, listed, rfl⟩ := List.mem_map.1 member
    exact ih i listed
  | emptyObject => exact .object (by simp)
  | object _ _ _ _ ih =>
    refine .object fun m member => ?_
    obtain ⟨i, listed, rfl⟩ := List.mem_map.1 (mem_of_merged member)
    exact ih i listed

/-- The text that was read and the text that is written spell trees of one shape. -/
theorem spells_of_readObject {text : Text} {fields : Members} (h : readObject text = .ok fields) :
    ∃ tree, Gives text tree ∧ Spells (Value.object fields).written (tree.map Numeral.carried) := by
  have read := read_of_readObject h
  obtain ⟨tree, gives, same⟩ := gives_of_read read
  have spells := spells_written (sound_of_read read)
  rw [same, tree.tree_read] at spells
  rw [same]
  exact ⟨tree, gives, spells⟩

end OrderReplay.Json
