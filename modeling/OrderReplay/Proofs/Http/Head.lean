import OrderReplay.Http.Wire
import OrderReplay.Proofs.Except

/-! The head of a response: its status line and fields, and whatever announces them. Readers of
a head take octets from the front and look no further, so that no octet of a body has a say in
the status or in the fields. -/
namespace OrderReplay.Http

variable {α β : Type}

/-- What a reader takes from the front of some octets, it takes whatever follows. -/
def ReadsFront (read : Octets → Except WireFlaw (α × Octets)) : Prop :=
  ∀ octets value rest, read octets = .ok (value, rest) →
    ∃ front, octets = front ++ rest ∧ ∀ other, read (front ++ other) = .ok (value, other)

def andThen (first : Octets → Except WireFlaw (α × Octets))
    (second : α → Octets → Except WireFlaw (β × Octets)) (octets : Octets) :
    Except WireFlaw (β × Octets) := do
  let (value, rest) ← first octets
  second value rest

namespace ReadsFront

theorem ok (value : α) : ReadsFront fun octets => .ok (value, octets) := by
  intro octets value rest read
  cases read
  exact ⟨[], rfl, fun other => rfl⟩

theorem error (flaw : WireFlaw) : ReadsFront fun _ => (.error flaw : Except _ (α × Octets)) := by
  intro octets value rest read
  cases read

theorem andThen {first : Octets → Except WireFlaw (α × Octets)}
    {second : α → Octets → Except WireFlaw (β × Octets)} (fronts : ReadsFront first)
    (behind : ∀ value, ReadsFront (second value)) : ReadsFront (andThen first second) := by
  intro octets result rest read
  obtain ⟨⟨value, middle⟩, one, two⟩ := ok_of_bind read
  obtain ⟨front, rfl, again⟩ := fronts _ _ _ one
  obtain ⟨back, rfl, anew⟩ := behind value _ _ _ two
  refine ⟨front ++ back, (List.append_assoc ..).symm, fun other => ?_⟩
  rw [Http.andThen, List.append_assoc, again]
  exact anew other

end ReadsFront

theorem fieldName_front : ReadsFront fieldName := by
  intro octets
  induction octets with
  | nil => intro name rest read; cases read
  | cons octet octets ih =>
    intro name rest read
    rw [fieldName] at read
    split at read
    next colon =>
      cases read
      refine ⟨[octet], rfl, fun other => ?_⟩
      rw [List.singleton_append, fieldName, if_pos colon]
    next letter =>
      split at read
      next allowed =>
        obtain ⟨⟨others, behind⟩, inner, same⟩ := ok_of_map read
        cases same
        obtain ⟨front, shape, again⟩ := ih _ _ inner
        refine ⟨octet :: front, by rw [shape, List.cons_append], fun other => ?_⟩
        rw [List.cons_append, fieldName, if_neg letter, if_pos allowed, again]
        rfl
      next => cases read

theorem fieldValue_front : ReadsFront fieldValue := by
  intro octets
  fun_induction fieldValue octets with
  | case1 | case2 => intro value rest read; cases read
  | case3 octets =>
    intro value rest read
    cases read
    exact ⟨[10], rfl, fun other => rfl⟩
  | case4 octets =>
    intro value rest read
    cases read
    exact ⟨[13, 10], rfl, fun other => rfl⟩
  | case5 octet octets single feed both allowed ih =>
    intro value rest read
    obtain ⟨⟨others, behind⟩, inner, same⟩ := ok_of_map read
    cases same
    obtain ⟨front, shape, again⟩ := ih _ _ inner
    refine ⟨octet :: front, by rw [shape, List.cons_append], fun other => ?_⟩
    have plain : octet ≠ 13 := by
      rintro rfl
      exact absurd allowed (by decide)
    rw [List.cons_append, fieldValue.eq_5, if_pos allowed, again]
    · rfl
    all_goals grind
  | case6 => intro value rest read; cases read

/-- A field, and the fields behind it. A name that is not empty is no end of a line. -/
theorem fields_cons {octets afterName afterValue rest name value : Octets}
    {others : List HeaderField} {limit : Nat} (present : name.isEmpty = false)
    (named : fieldName octets = .ok (name, afterName))
    (valued : fieldValue afterName = .ok (value, afterValue))
    (followed : fields limit afterValue = .ok (others, rest)) :
    fields (limit + 1) octets = .ok ((name, trimValue value) :: others, rest) := by
  have begun : ∃ octet tail, octets = octet :: tail ∧ isNameOctet octet = true := by
    cases octets with
    | nil => cases named
    | cons octet tail =>
      refine ⟨octet, tail, rfl, ?_⟩
      rw [fieldName] at named
      split at named
      next =>
        cases named
        cases present
      next =>
        split at named
        next allowed => exact allowed
        next => cases named
  obtain ⟨octet, tail, rfl, letter⟩ := begun
  have feed : octet ≠ 10 := by
    rintro rfl
    exact absurd letter (by decide)
  have carriage : octet ≠ 13 := by
    rintro rfl
    exact absurd letter (by decide)
  rw [fields.eq_6, named]
  · change (if name.isEmpty = true then _ else fieldValue afterName >>= _) = _
    rw [if_neg (by rw [present]; decide), valued]
    change (fields limit afterValue >>= _) = _
    rw [followed]
    rfl
  all_goals grind

theorem fields_front (limit : Nat) : ReadsFront (fields limit) := by
  intro octets
  fun_induction fields limit octets with
  | case1 | case2 | case5 => intro list rest read; cases read
  | case3 limit octets =>
    intro list rest read
    cases read
    exact ⟨[10], rfl, fun other => by rw [List.singleton_append, fields.eq_3]⟩
  | case4 limit octets =>
    intro list rest read
    cases read
    exact ⟨[13, 10], rfl, fun other => by rw [List.cons_append, List.singleton_append, fields.eq_4]⟩
  | case6 limit octets _ _ _ _ ih =>
    intro list rest read
    obtain ⟨⟨name, afterName⟩, named, read⟩ := ok_of_bind read
    dsimp only at read
    split at read
    next => cases read
    next present =>
      obtain ⟨⟨value, afterValue⟩, valued, read⟩ := ok_of_bind read
      obtain ⟨⟨others, behind⟩, followed, same⟩ := ok_of_bind read
      cases same
      obtain ⟨front, rfl, rename⟩ := fieldName_front _ _ _ named
      obtain ⟨middle, rfl, revalue⟩ := fieldValue_front _ _ _ valued
      obtain ⟨back, rfl, refollow⟩ := ih _ _ _ followed
      refine ⟨front ++ (middle ++ back), by simp only [List.append_assoc], fun other => ?_⟩
      rw [List.append_assoc, List.append_assoc]
      exact fields_cons (by simpa using present) (rename _) (revalue _) (refollow other)

theorem expect_front (wanted : Octets) :
    ReadsFront fun octets => (expect wanted octets).map ((), ·) := by
  induction wanted with
  | nil => exact ReadsFront.ok ()
  | cons octet wanted ih =>
    intro octets value rest read
    cases octets with
    | nil => cases read
    | cons first octets =>
      dsimp only [expect] at read
      split at read
      next same =>
        obtain ⟨front, rfl, again⟩ := ih _ _ _ read
        refine ⟨first :: front, rfl, fun other => ?_⟩
        dsimp only [List.cons_append, expect]
        rw [if_pos same]
        exact again other
      next => cases read

namespace Wire

theorem number_front (count total : Nat) : ReadsFront (number count total) := by
  induction count generalizing total with
  | zero =>
    intro octets value rest read
    rw [number] at read
    cases read
    exact ⟨[], rfl, fun other => by rw [List.nil_append, number]⟩
  | succ count ih =>
    intro octets value rest read
    cases octets with
    | nil => cases read
    | cons octet octets =>
      rw [number] at read
      split at read
      next digit is =>
        obtain ⟨front, rfl, again⟩ := ih _ _ _ _ read
        refine ⟨octet :: front, rfl, fun other => ?_⟩
        rw [List.cons_append, number, is]
        exact again other
      next => cases read

def opening (octets : Octets) : Except WireFlaw (Unit × Octets) :=
  (skipLines octets >>= expect (Text.Utf8.encode "HTTP/1.".toList)).map ((), ·)

theorem opening_front : ReadsFront opening := by
  intro octets
  unfold opening
  fun_induction skipLines octets with
  | case1 octets ih =>
    intro value rest read
    obtain ⟨front, rfl, again⟩ := ih value rest read
    exact ⟨10 :: front, rfl, again⟩
  | case2 octets ih =>
    intro value rest read
    obtain ⟨front, rfl, again⟩ := ih value rest read
    exact ⟨13 :: 10 :: front, rfl, again⟩
  | case3 | case4 => intro value rest read; cases read
  | case5 octets =>
    intro value rest read
    obtain ⟨front, rfl, again⟩ := expect_front _ _ _ _ read
    have version : Text.Utf8.encode "HTTP/1.".toList = 72 :: [84, 84, 80, 47, 49, 46] := by decide
    -- The version begins with a letter, and no line ends where it does.
    obtain ⟨more, rfl⟩ : ∃ more, front = 72 :: more := by
      have taken := again []
      cases front with
      | nil => cases taken
      | cons octet more =>
        by_cases same : 72 = octet
        · exact ⟨more, by rw [← same]⟩
        · rw [version] at taken
          dsimp only [List.cons_append, expect] at taken
          rw [if_neg same] at taken
          cases taken
    refine ⟨72 :: more, rfl, fun other => ?_⟩
    rw [List.cons_append, skipLines.eq_5 _ (by simp) (by simp) (by simp) (by simp)]
    exact again other

def lineEnd : Octets → Except WireFlaw (Unit × Octets)
  | [] | [13] => .error .unfinished
  | 10 :: rest | 13 :: 10 :: rest => .ok ((), rest)
  | 32 :: rest => (fieldValue rest).map fun (_, rest) => ((), rest)
  | _ => .error .malformed

theorem lineEnd_front : ReadsFront lineEnd := by
  intro octets
  fun_cases lineEnd octets with
  | case1 | case2 | case6 => intro value rest read; cases read
  | case3 octets =>
    intro value rest read
    cases read
    exact ⟨[10], rfl, fun other => rfl⟩
  | case4 octets =>
    intro value rest read
    cases read
    exact ⟨[13, 10], rfl, fun other => rfl⟩
  | case5 octets =>
    intro value rest read
    obtain ⟨⟨reason, behind⟩, inner, same⟩ := ok_of_map read
    cases same
    obtain ⟨front, rfl, again⟩ := fieldValue_front _ _ _ inner
    refine ⟨32 :: front, rfl, fun other => ?_⟩
    rw [List.cons_append, lineEnd.eq_5, again]
    rfl

theorem statusLine_eq : statusLine =
    andThen opening fun _ => andThen (number 1 0) fun minor octets =>
      if 1 < minor then .error .malformed
      else andThen (fun octets => (expect [32] octets).map ((), ·))
        (fun _ => andThen (number 3 0) fun code => andThen lineEnd fun _ rest =>
          match Status.ofCode? code with
          | none => .error .malformed
          | some status => .ok (⟨minor == 1, status⟩, rest)) octets := by
  funext octets
  unfold statusLine opening andThen
  dsimp only
  cases skipLines octets with
  | error => rfl
  | ok lines =>
    dsimp only [bind, Except.bind, Except.map]
    cases expect (Text.Utf8.encode "HTTP/1.".toList) lines with
    | error => rfl
    | ok rest =>
      dsimp only
      cases number 1 0 rest with
      | error => rfl
      | ok pair =>
        obtain ⟨minor, rest⟩ := pair
        dsimp only
        split
        next => rfl
        next =>
          cases expect [32] rest with
          | error => rfl
          | ok rest =>
            dsimp only
            cases number 3 0 rest with
            | error => rfl
            | ok pair =>
              obtain ⟨code, rest⟩ := pair
              dsimp only
              fun_cases lineEnd rest with
              | case1 | case2 | case3 | case4 => rfl
              | case5 octets =>
                cases reason : fieldValue octets with
                | error => simp [Except.map, reason]
                | ok pair =>
                  cases Status.ofCode? code <;> simp [Except.map, reason]
              | case6 octets => grind

theorem statusLine_front : ReadsFront statusLine := by
  rw [statusLine_eq]
  refine opening_front.andThen fun _ => (number_front 1 0).andThen fun minor => ?_
  split
  next => exact .error _
  next =>
    refine (expect_front [32]).andThen fun _ => ?_
    refine (number_front 3 0).andThen fun code => lineEnd_front.andThen fun _ => ?_
    cases Status.ofCode? code with
    | none => exact .error _
    | some status => exact .ok _

theorem ne_nil_of_statusLine {front : Octets} {line : StatusLine}
    (read : ∀ other, statusLine (front ++ other) = .ok (line, other)) : front ≠ [] := by
  rintro rfl
  have none : statusLine [] = .error .unfinished := rfl
  exact nomatch none.symm.trans (read [])

/-- What is behind a head decides the body alone, however it is framed. -/
structure IsHead (head : Octets) (status : Status) (list : List HeaderField) (framing : Framing) :
    Prop where
  first : ∀ {fuel}, head.length < fuel → ∀ rest closed,
    first fuel (head ++ rest) closed = .ok ⟨status, list, body framing rest closed⟩

theorem head_of_first {fuel : Nat} {octets : Octets} {closed : Bool} {r : Response}
    (read : first fuel octets closed = .ok r) :
    ∃ head rest framing, octets = head ++ rest ∧ IsHead head r.status r.fields framing := by
  induction fuel generalizing octets with
  | zero => cases read
  | succ fuel ih =>
    obtain ⟨⟨line, afterLine⟩, lined, behind⟩ := ok_of_bind read
    obtain ⟨⟨list, afterFields⟩, listed, -⟩ := ok_of_bind behind
    obtain ⟨front, rfl, again⟩ := statusLine_front _ _ _ lined
    obtain ⟨middle, rfl, anew⟩ := fields_front _ _ _ _ listed
    have present := List.length_pos_iff.2 (ne_nil_of_statusLine again)
    -- Whatever follows them, status line and fields are read again in one more step.
    have step {fuel : Nat} (enough : 0 < fuel) (other : Octets) (closed : Bool) :
        first fuel (front ++ (middle ++ other)) closed =
          if isInterim line.status then first (fuel - 1) other closed
          else framing line list >>= fun framed =>
            .ok ⟨line.status, list, body framed other closed⟩ := by
      obtain ⟨less, rfl⟩ := Nat.exists_eq_succ_of_ne_zero (Nat.ne_of_gt enough)
      rw [first, again]
      change fields fieldLimit (middle ++ other) >>= _ = _
      rw [anew]
      rfl
    rw [step (Nat.succ_pos fuel)] at read
    split at read
    next interim =>
      obtain ⟨head, rest, framing, rfl, isHead⟩ := ih read
      refine ⟨front ++ (middle ++ head), rest, framing, by simp only [List.append_assoc],
        ⟨fun {more} enough rest closed => ?_⟩⟩
      rw [List.length_append, List.length_append] at enough
      rw [List.append_assoc, List.append_assoc, step (by omega), if_pos interim]
      exact isHead.first (by omega) rest closed
    next final =>
      obtain ⟨framing, framed, same⟩ := ok_of_bind read
      cases same
      refine ⟨front ++ middle, afterFields, framing, (List.append_assoc ..).symm,
        ⟨fun {more} enough rest closed => ?_⟩⟩
      rw [List.append_assoc, step (Nat.zero_lt_of_lt enough), if_neg final, framed]
      rfl

/-- A response is read up to the end of its head from octets of which any others may follow, and
the connection closed or not, with the same status and fields. -/
theorem response_of_head {octets : Octets} {closed : Bool} {r : Response}
    (read : response octets closed = .ok r) :
    ∃ head rest framing, octets = head ++ rest ∧ ∀ other closed,
      response (head ++ other) closed = .ok { r with body := body framing other closed } := by
  obtain ⟨head, rest, framing, shape, isHead⟩ := head_of_first read
  refine ⟨head, rest, framing, shape, fun other closed => isHead.first ?_ other closed⟩
  rw [List.length_append]
  omega

end Wire

end OrderReplay.Http
