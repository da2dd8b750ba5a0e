import OrderReplay.CommandLine.Parse

/-! Command lines that ask for a notice. No word does so unless it looks it: the flag of a
notice, written out or as a letter. All other words are read as options, or are mistakes. -/
namespace OrderReplay

theorem Text.cut_of_none {mark : Char} {text before : Text}
    (h : Text.cut mark text = (before, none)) : before = text := by
  unfold Text.cut at h
  split at h
  next => exact (Prod.mk.inj h).1.symm
  next => cases h

namespace CommandLine

def asksNotice : Text → Bool
  | '-' :: '-' :: name => (Notice.ofFlag? name).isSome
  | '-' :: letter :: _ => (Notice.ofLetter? letter).isSome
  | _ => false

namespace Words

/-- Where reading stops, one of its parts has stopped. -/
theorem stop_of_bind {α β : Type} {x : Except Stop α} {f : α → Except Stop β} {stop : Stop}
    (h : x >>= f = .error stop) : x = .error stop ∨ ∃ a, x = .ok a ∧ f a = .error stop := by
  cases x with
  | error other => exact .inl (congrArg Except.error (Except.error.inj h))
  | ok a => exact .inr ⟨a, rfl, h⟩

theorem orStop_notice {α : Type} {x : Except UsageError α} {notice : Notice} :
    orStop x ≠ .error (.notice notice) := by
  cases x <;> simp [orStop]

theorem notice_of_long {w : Words} {name : Text} {value : Option Text} {notice : Notice}
    (h : long w name value = .error (.notice notice)) :
    (Notice.ofFlag? name).isSome = true ∧ value = none := by
  unfold long at h
  split at h
  next option known =>
    rcases stop_of_bind h with unsettled | ⟨settled, -, given⟩
    · exact absurd unsettled orStop_notice
    · split at given
      next value =>
        rcases stop_of_bind given with refused | ⟨_, -, kept⟩
        · exact absurd refused orStop_notice
        · cases kept
      next => cases given
  next =>
    split at h
    next => cases h
    next named => exact ⟨Option.isSome_iff_exists.2 ⟨_, named⟩, rfl⟩
    next => cases h

theorem asksNotice_of_step {w : Words} {word : Text} {notice : Notice}
    (h : step w word = .error (.notice notice)) : asksNotice word = true := by
  unfold step at h
  split at h
  next => cases h
  next =>
    split at h
    next => cases h
    next rest _ =>
      rcases cut : Text.cut '=' rest with ⟨name, value⟩
      rw [cut] at h
      obtain ⟨named, rfl⟩ := notice_of_long h
      rwa [Text.cut_of_none cut] at named
    next letter rest _ _ =>
      unfold short at h
      split at h
      next known => simp [asksNotice, known]
      next => cases h
    next =>
      unfold plain at h
      split at h <;> cases h

/-- A line in which no word asks for a notice is not read as one that asks. -/
theorem run_notice {w : Words} {args : List Text} {notice : Notice}
    (plain : ∀ word ∈ args, asksNotice word = false) :
    run w args ≠ .error (.notice notice) := by
  induction args generalizing w with
  | nil => simp [run]
  | cons word rest ih =>
    intro asked
    rcases stop_of_bind asked with now | ⟨next, -, later⟩
    · have asks := asksNotice_of_step now
      rw [plain word List.mem_cons_self] at asks
      cases asks
    · exact ih (fun other member => plain other (List.mem_cons_of_mem word member)) later

end Words

theorem parse_notice {args : List Text} {env : Environment} {notice : Notice}
    (plain : ∀ word ∈ args, asksNotice word = false) : parse args env ≠ .ok (.notice notice) := by
  unfold parse
  split
  next => simp
  next asked => exact absurd asked (Words.run_notice plain)
  next words _ => cases options words env <;> simp [Except.map]

end CommandLine
end OrderReplay
