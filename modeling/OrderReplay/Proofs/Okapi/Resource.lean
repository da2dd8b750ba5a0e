import OrderReplay.Okapi.Client
import OrderReplay.Proofs.Http.Url

/-! Which resource an update addresses. The identifier of a line is put into the address as
it is, so that the address is read without knowing where the identifier begins. An
identifier that holds nothing which means something in an address is a segment of its own,
and the line's own resource is addressed; any other names some other resource, though
always of the same server. -/
namespace OrderReplay.Okapi
open Http

/-- A line's own resource below that of all lines: one segment that gives the identifier,
and no query. -/
def OwnResource (id target : Text) : Prop :=
  ∃ segment, target = linesPath ++ '/' :: segment ∧ '/' ∉ segment ∧ '?' ∉ segment ∧
    Percent.decode segment = Text.Utf8.encode id

/-- An identifier that an address takes as it is: without slashes of either kind and the
marks of queries and fragments, without tabs and line ends or a blank at its end, without
an escape, and no dot segment. -/
def isLiteral (id : Text) : Bool :=
  Url.isTidy id && '/' ∉ id && '\\' ∉ id && '?' ∉ id && '#' ∉ id &&
    !Percent.hasEscape id && !Path.isDot id && !Path.isDoubleDot id

/-- One resource belongs to one identifier. -/
theorem OwnResource.unique {a b target : Text} (first : OwnResource a target)
    (second : OwnResource b target) : a = b := by
  obtain ⟨segment, rfl, -, -, read⟩ := first
  obtain ⟨other, same, -, -, reread⟩ := second
  have equal := List.append_cancel_left same
  rw [List.cons.injEq] at equal
  rw [← equal.2, read] at reread
  exact Text.Utf8.encode_injective reread

/-! ### The target of an update -/

def storage : Text := "orders-storage".toList
def lines : Text := "po-lines".toList

def below : Text := storage ++ '/' :: (lines ++ ['/'])

theorem linePath_shape (line : OrderLine) : linePath line = '/' :: (below ++ line.id) := rfl

theorem linesPath_shape (segment : Text) :
    linesPath ++ '/' :: segment = Path.shown [storage, lines, segment] := by
  simp only [Path.shown, List.flatMap_cons, List.flatMap_nil, List.append_nil]
  rfl

def pathPart (port : Nat) (id : Text) : Text := Url.slashed (.web port) (Url.tidy id)

def resourceOf (port : Nat) (id : Text) : Text :=
  Path.shown (Path.resolve false [lines, storage] (Text.pieces '/' (pathPart port id))) ++
    Url.queryShown ((Url.parts (Url.tidy id)).2.1.map (Percent.encode Percent.webQuery))

theorem segments_below (rest : Text) :
    Path.segments false (below ++ rest) =
      Path.resolve false [lines, storage] (Text.pieces '/' rest) := by
  have shape : below ++ rest = storage ++ '/' :: (lines ++ '/' :: rest) := by
    simp [below]
  have first : '/' ∉ storage := by decide
  have second : '/' ∉ lines := by decide
  rw [Path.segments, shape, Text.pieces_append first, Text.pieces_append second,
    Path.resolve_cons (by simp), Path.resolve_cons (Text.pieces_ne_nil '/' rest)]
  rfl

theorem target_eq (port : Nat) (scheme id : Text) (a : Authority) :
    (Url.rooted (.web port) scheme (some a) ('/' :: Url.tidy (below ++ id))).target =
      resourceOf port id := by
  have solid : below.all (fun c => 0x20 < c.toNat) = true := by decide
  have tidied : Url.tidy (below ++ id) = below ++ Url.tidy id :=
    Url.tidy_append (by simpa using solid) id
  have cut := Url.parts_append (by decide : '?' ∉ '/' :: below ∧ '#' ∉ '/' :: below) (Url.tidy id)
  have slashes : ('/' :: below).map (fun c => if Url.isSlash (.web port) c then '/' else c) =
      '/' :: below := rfl
  have path : Url.slashed (.web port) ('/' :: below ++ Url.tidy id) =
      '/' :: below ++ pathPart port id := by
    rw [Url.slashed, cut, List.map_append, slashes]
    rfl
  rw [tidied, Url.rooted_target, ← List.cons_append, path, cut, List.cons_append, Url.unrooted,
    segments_below]
  rfl

/-! ### Literal identifiers -/

theorem isLiteral_iff (id : Text) : isLiteral id = true ↔
    Url.tidy id = id ∧ (Url.parts id).1 = id ∧ ('/' ∉ id ∧ '\\' ∉ id) ∧
      Percent.hasEscape id = false ∧ Path.isDot id = false ∧ Path.isDoubleDot id = false := by
  have whole : (Url.parts id).1 = id ↔ '?' ∉ id ∧ '#' ∉ id := by
    constructor
    · intro same
      have front := (Url.parts_front id).2
      rwa [same] at front
    · intro plain
      rw [Url.parts_plain plain]
  rw [Url.tidy_eq_iff, whole]
  simp only [isLiteral, Bool.and_eq_true, decide_eq_true_eq, Bool.not_eq_true']
  constructor
  · rintro ⟨⟨⟨⟨⟨⟨⟨tidy, slash⟩, backslash⟩, mark⟩, hash⟩, escape⟩, dot⟩, doubleDot⟩
    exact ⟨tidy, ⟨mark, hash⟩, ⟨slash, backslash⟩, escape, dot, doubleDot⟩
  · rintro ⟨tidy, ⟨mark, hash⟩, ⟨slash, backslash⟩, escape, dot, doubleDot⟩
    exact ⟨⟨⟨⟨⟨⟨⟨tidy, slash⟩, backslash⟩, mark⟩, hash⟩, escape⟩, dot⟩, doubleDot⟩

def isUnreserved (c : Char) : Bool :=
  Path.isAlpha c || (Text.digit? c).isSome || c ∈ ['-', '.', '_', '~']

/-- Identifiers as they are usually made are literal. -/
theorem isLiteral_of_unreserved {id : Text} (plain : id.all isUnreserved = true)
    (dot : id ≠ ['.']) (doubleDot : id ≠ ['.', '.']) : isLiteral id = true := by
  have visible : ∀ c ∈ id, 0x20 < c.toNat := fun c inside =>
    Text.visible_of_kind isUnreserved (by decide) (List.all_eq_true.1 plain c inside)
  have free (mark : Char) (reserved : isUnreserved mark = false) : mark ∉ id := by
    intro inside
    rw [List.all_eq_true.1 plain mark inside] at reserved
    cases reserved
  have percent := free '%' (by decide)
  have marks : '?' ∉ id ∧ '#' ∉ id := ⟨free _ (by decide), free _ (by decide)⟩
  have whole : (Url.parts id).1 = id := by rw [Url.parts_plain marks]
  exact (isLiteral_iff id).2 ⟨Url.tidy_solid visible, whole,
    ⟨free _ (by decide), free _ (by decide)⟩, Percent.hasEscape_of_not_mem percent,
    Bool.eq_false_iff.2 fun read => dot (Path.isDot_plain percent read),
    Bool.eq_false_iff.2 fun read => doubleDot (Path.isDoubleDot_plain percent read)⟩

variable {port : Nat} {id : Text}

theorem slashed_plain {text : Text} (slash : '/' ∉ text) (backslash : '\\' ∉ text) :
    (text.map fun c => if Url.isSlash (.web port) c then '/' else c) = text := by
  have kept : ∀ c ∈ text, (if Url.isSlash (.web port) c then '/' else c) = c := by
    intro c member
    have one : c ≠ '/' := fun same => slash (same ▸ member)
    have other : c ≠ '\\' := fun same => backslash (same ▸ member)
    simp [Url.isSlash, one, other]
  rw [List.map_congr_left kept, List.map_id']

theorem not_mem_of_slashed {text : Text}
    (clear : '/' ∉ text.map fun c => if Url.isSlash (.web port) c then '/' else c) :
    '/' ∉ text ∧ '\\' ∉ text :=
  ⟨fun member => clear (List.mem_map.2 ⟨_, member, rfl⟩),
    fun member => clear (List.mem_map.2 ⟨_, member, rfl⟩)⟩

theorem ownResource_of_literal (literal : isLiteral id = true) :
    OwnResource id (resourceOf port id) := by
  obtain ⟨tidy, whole, ⟨slash, backslash⟩, escape, dot, doubleDot⟩ := (isLiteral_iff id).1 literal
  have path : pathPart port id = id := by
    rw [pathPart, tidy, Url.slashed, whole, slashed_plain slash backslash]
  have front := (Url.parts_front id).2
  rw [whole] at front
  have query : (Url.parts id).2.1 = none := by rw [Url.parts_plain front]
  have shape : resourceOf port id = linesPath ++ '/' :: Percent.encode Percent.path id := by
    rw [resourceOf, path, tidy, query, Text.pieces_plain slash, Path.resolve_plain dot doubleDot,
      linesPath_shape]
    simp [Url.queryShown]
  have sprung : Path.Sprung [id] (Percent.encode Percent.path id) := .inr ⟨id, by simp, rfl⟩
  refine ⟨_, shape, sprung.plain (.inl (by simpa using slash)) (by decide),
    sprung.plain (.inr (by decide)) (by decide), ?_⟩
  rw [Percent.decode_encode Percent.path_keepsEscapes, Percent.decode_eq_encode escape]

theorem length_pathPart (port : Nat) (id : Text) :
    (Text.Utf8.encode (pathPart port id)).length =
      (Text.Utf8.encode (Url.parts (Url.tidy id)).1).length := by
  rw [pathPart, Url.slashed]
  induction (Url.parts (Url.tidy id)).1 with
  | nil => rfl
  | cons c rest ih =>
    have size : (if Url.isSlash (.web port) c then '/' else c).utf8Size = c.utf8Size := by
      split
      · rename_i slash
        have either : c = '/' ∨ c = '\\' := by simpa [Url.isSlash] using slash
        rcases either with rfl | rfl <;> rfl
      · rfl
    simp only [List.map_cons, Text.Utf8.length_encode_cons, size, ih]

/-- Every step from an identifier to a piece of its path can only lose octets. A piece
that gives all of them is therefore the whole path, and the path the whole identifier. -/
theorem whole_of_octets {piece : Text} (member : piece ∈ Text.pieces '/' (pathPart port id))
    (read : Percent.decode piece = Text.Utf8.encode id) :
    Url.tidy id = id ∧ (Url.parts id).1 = id ∧ piece = pathPart port id := by
  have within := (Text.mem_pieces member).1
  have front := (Url.parts_front (Url.tidy id)).1
  have octets := congrArg List.length read
  have read_most := Percent.decode_length_le piece
  have piece_most := Text.Utf8.encode_length_le within
  have path_most := length_pathPart port id
  have front_most := Text.Utf8.encode_length_le front
  have tidy_most := Text.Utf8.encode_length_le (Url.tidy_sublist id)
  have tidy : Url.tidy id = id :=
    Text.Utf8.eq_of_encode_length (Url.tidy_sublist id) (by omega)
  have whole : (Url.parts (Url.tidy id)).1 = Url.tidy id :=
    Text.Utf8.eq_of_encode_length front (by omega)
  rw [tidy] at whole
  exact ⟨tidy, whole, Text.Utf8.eq_of_encode_length within (by omega)⟩

/-- Three segments, the last of them the line's own, are what its resource is made of. -/
theorem segments_of_ownResource (own : OwnResource id (resourceOf port id)) :
    ∃ segment, Percent.decode segment = Text.Utf8.encode id ∧
      Path.resolve false [lines, storage] (Text.pieces '/' (pathPart port id)) =
        [storage, lines] ++ [segment] := by
  obtain ⟨segment, shape, slash, mark, read⟩ := own
  have no_query : Url.queryShown ((Url.parts (Url.tidy id)).2.1.map
      (Percent.encode Percent.webQuery)) = [] := by
    cases query : (Url.parts (Url.tidy id)).2.1.map (Percent.encode Percent.webQuery) with
    | none => rfl
    | some shown =>
      have marked : '?' ∈ resourceOf port id := by simp [resourceOf, query, Url.queryShown]
      have base : '?' ∉ linesPath := by decide
      rw [shape] at marked
      simp [base, mark] at marked
  rw [resourceOf, no_query, List.append_nil, linesPath_shape] at shape
  have plain : ∀ s ∈ [lines, storage], '/' ∉ s := by decide
  refine ⟨segment, read, Path.shown_injective (fun s member => ?_) (fun s member => ?_) shape⟩
  · rcases Path.mem_resolve member with old | sprung
    · exact plain s old
    · exact sprung.plain (.inl fun piece inside => (Text.mem_pieces inside).2) (by decide)
  · rcases List.mem_append.1 member with old | new
    · exact plain s (List.mem_reverse.1 old)
    · rw [List.mem_singleton.1 new]
      exact slash

theorem literal_of_ownResource (own : OwnResource id (resourceOf port id)) :
    isLiteral id = true := by
  obtain ⟨segment, read, segments⟩ := segments_of_ownResource own
  rcases Path.resolve_last segments (by simp) with rfl | ⟨piece, member, rfl⟩
  · have empty : id = [] := Text.Utf8.encode_injective read.symm
    rw [empty]
    rfl
  rw [Percent.decode_encode Percent.path_keepsEscapes] at read
  obtain ⟨tidy, whole, rfl⟩ := whole_of_octets member read
  have clear := (Text.mem_pieces member).2
  rw [pathPart, tidy, Url.slashed, whole] at clear
  have slashes := not_mem_of_slashed clear
  have path : pathPart port id = id := by
    rw [pathPart, tidy, Url.slashed, whole, slashed_plain slashes.1 slashes.2]
  rw [path] at read segments
  rw [Text.pieces_plain slashes.1] at segments
  have escape : Percent.hasEscape id = false := by
    apply Bool.eq_false_iff.2
    intro escape
    have fewer := Percent.hasEscape_of_short escape
    rw [read] at fewer
    omega
  have dots : ¬(Path.isDot id = true ∨ Path.isDoubleDot id = true) := by
    intro dots
    obtain ⟨front, last⟩ := Path.resolve_dots [lines, storage] dots
    rw [last] at segments
    -- The segment is empty then, and so is the identifier, which is no dot segment.
    have gone : Percent.encode Percent.path id = [] :=
      (List.singleton_inj.1 (List.append_inj' segments rfl).2).symm
    have given := Percent.decode_encode Percent.path_keepsEscapes id
    rw [gone, read] at given
    have empty : id = [] := Text.Utf8.encode_injective given.symm
    subst empty
    revert dots
    decide
  rw [not_or, Bool.not_eq_true, Bool.not_eq_true] at dots
  exact (isLiteral_iff id).2 ⟨tidy, whole, slashes, escape, dots⟩

theorem ownResource_iff (port : Nat) (id : Text) :
    OwnResource id (resourceOf port id) ↔ isLiteral id = true :=
  ⟨literal_of_ownResource, ownResource_of_literal⟩

end OrderReplay.Okapi
