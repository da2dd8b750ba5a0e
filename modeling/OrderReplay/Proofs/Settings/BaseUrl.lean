import Mathlib.Data.List.Basic
import Mathlib.Tactic.Push
import OrderReplay.Proofs.Okapi.Update
import OrderReplay.Settings

/-! The base address that settings give to the client. Slashes at the end of a host are cut
twice, by the settings and by the client, but only a host of nothing but slashes is cut down to
nothing: it is no empty host when the settings ask for one, and leaves a scheme alone. -/
namespace OrderReplay

namespace Text

theorem getLast?_trimEnd (mark : Char) (text : Text) :
    (trimEnd mark text).getLast? ≠ some mark := by
  induction text with
  | nil => simp [trimEnd]
  | cons c rest ih =>
    rw [trimEnd]
    split
    next => by_cases same : c = mark <;> simp [same]
    next present =>
      obtain ⟨first, more, shape⟩ := List.exists_cons_of_ne_nil present
      rw [shape] at ih ⊢
      rwa [List.getLast?_cons_cons]

theorem trimEnd_append (mark : Char) (text : Text) :
    ∃ count, text = trimEnd mark text ++ List.replicate count mark := by
  induction text with
  | nil => exact ⟨0, rfl⟩
  | cons c rest ih =>
    obtain ⟨count, split⟩ := ih
    rw [trimEnd]
    split
    next none =>
      rw [none, List.nil_append] at split
      by_cases same : c = mark
      · refine ⟨count + 1, ?_⟩
        rw [if_pos same, split, same]
        rfl
      · refine ⟨count, ?_⟩
        rw [if_neg same, split]
        simp
    next =>
      refine ⟨count, ?_⟩
      rw [List.cons_append, ← split]

theorem trimEnd_of_getLast? {mark : Char} {text : Text} (ended : text.getLast? ≠ some mark) :
    trimEnd mark text = text := by
  obtain ⟨count, split⟩ := trimEnd_append mark text
  cases count with
  | zero =>
    rw [List.replicate_zero, List.append_nil] at split
    exact split.symm
  | succ count =>
    rw [List.replicate_succ', ← List.append_assoc] at split
    rw [split, List.getLast?_concat] at ended
    exact absurd rfl ended

theorem trimEnd_eq_nil_iff (mark : Char) (text : Text) :
    trimEnd mark text = [] ↔ ∀ c ∈ text, c = mark := by
  obtain ⟨count, split⟩ := trimEnd_append mark text
  constructor
  · intro none c member
    rw [none, List.nil_append] at split
    rw [split] at member
    exact List.eq_of_mem_replicate member
  · intro all
    rcases List.eq_nil_or_concat (trimEnd mark text) with none | ⟨front, last, shape⟩
    · exact none
    · rw [List.concat_eq_append] at shape
      have member : last ∈ text := by
        rw [split, shape]
        simp
      have ended := getLast?_trimEnd mark text
      rw [shape, List.getLast?_concat, all last member] at ended
      exact absurd rfl ended

end Text

namespace Settings

/-- A base address that a path can follow: a scheme of the web, and some text behind it that no
slash ends. -/
structure IsUsable (scheme host base : Text) : Prop where
  web : scheme = plainScheme ∨ scheme = secureScheme
  present : host ≠ []
  ended : host.getLast? ≠ some '/'
  shape : base = scheme ++ host

variable {scheme host base : Text}

/-- The scheme in front decides that of the address, whatever stands behind it. -/
theorem scheme_of_web (web : scheme = plainScheme ∨ scheme = secureScheme) {text : Text}
    {url : Http.Url} (read : Http.Url.ofText? (scheme ++ text) = some url) :
    url.scheme ++ "://".toList = scheme := by
  have spelled : ∃ name, scheme = name ++ "://".toList ∧
      name.all Http.Url.isSchemeChar = true ∧
      (name.head?.map Http.Path.isAlpha).getD false = true ∧ Text.lower name = name := by
    rcases web with rfl | rfl
    · exact ⟨Http.Url.http, rfl, by decide, by decide, by decide⟩
    · exact ⟨Http.Url.https, rfl, by decide, by decide, by decide⟩
  obtain ⟨name, rfl, named, letter, low⟩ := spelled
  obtain ⟨rest, begun⟩ := Http.Url.ofText?_scheme read
  have cleaned := @Http.Url.clean_base name [] rfl named text
  have found := Http.Url.scheme?_of_shape named ('/' :: '/' :: Http.Url.tidy text)
  rw [if_pos letter, low] at found
  rw [show name ++ "://".toList ++ text = name ++ ':' :: '/' :: '/' :: [] ++ text from rfl,
    cleaned, List.append_assoc, List.cons_append, List.cons_append, List.cons_append,
    List.nil_append, found] at begun
  rw [← (Prod.mk.inj (Option.some.inj begun)).1]

theorem IsUsable.getLast? (usable : IsUsable scheme host base) : base.getLast? ≠ some '/' := by
  rw [usable.shape, List.getLast?_append_of_ne_nil _ usable.present]
  exact usable.ended

/-- A host of which the slashes at its end leave something. -/
theorem usable_of_host {host : Text} (given : Text.trimEnd '/' host ≠ []) :
    ∃ scheme server, IsUsable scheme server (baseUrlOf host) := by
  have ended := Text.getLast?_trimEnd '/' host
  unfold baseUrlOf
  dsimp only
  split
  next named =>
    have split : ∃ scheme server, (scheme = plainScheme ∨ scheme = secureScheme) ∧
        Text.trimEnd '/' host = scheme ++ server := by
      rcases Bool.or_eq_true_iff.1 named with plain | secure
      · obtain ⟨server, same⟩ := List.isPrefixOf_iff_prefix.1 plain
        exact ⟨_, server, .inl rfl, same.symm⟩
      · obtain ⟨server, same⟩ := List.isPrefixOf_iff_prefix.1 secure
        exact ⟨_, server, .inr rfl, same.symm⟩
    obtain ⟨scheme, server, web, same⟩ := split
    rw [same] at ended ⊢
    -- The slashes of the scheme itself would have been cut, had nothing stood behind them.
    have present : server ≠ [] := by
      rintro rfl
      rw [List.append_nil] at ended
      rcases web with rfl | rfl
      · exact ended (by decide)
      · exact ended (by decide)
    rw [List.getLast?_append_of_ne_nil _ present] at ended
    exact ⟨scheme, server, web, present, ended, rfl⟩
  next => exact ⟨secureScheme, _, .inr rfl, given, ended, rfl⟩

/-- A host of nothing but slashes leaves the scheme alone, and the client cuts even that. -/
theorem bare_of_host {host : Text} (gone : Text.trimEnd '/' host = []) :
    baseUrlOf host = secureScheme := by
  unfold baseUrlOf
  rw [gone]
  rfl

theorem ofOptions_ok {o : CommandLine.Options} {s : Settings} (given : ofOptions o = .ok s) :
    Text.trim o.host ≠ [] ∧ s.baseUrl = baseUrlOf (Text.trim o.host) := by
  unfold ofOptions at given
  dsimp only at given
  split at given
  next => cases given
  next present =>
    split at given
    next => cases given
    next =>
      split at given
      next => cases given
      next =>
        obtain rfl := Except.ok.inj given
        exact ⟨by simpa using present, rfl⟩

theorem ofOptions_hostEmpty_iff (o : CommandLine.Options) :
    ofOptions o = .error .hostEmpty ↔ Text.trim o.host = [] := by
  constructor
  · intro refused
    by_contra present
    unfold ofOptions at refused
    dsimp only at refused
    rw [if_neg (by simpa using present)] at refused
    split at refused
    next => cases refused
    next => split at refused <;> cases refused
  · intro empty
    simp [ofOptions, empty]

/-- Settings give a base address of a scheme and some text that no slash ends, if there is
anything but slashes in the host; the client takes it as it is, and every request goes where the
path of its call leads behind that text. A blank host is refused. A host of nothing but slashes
is not, and gives a scheme alone, of which the client cuts the slashes too, so that paths are
pasted to what is left of it. -/
theorem base_of_options (o : CommandLine.Options) :
    (ofOptions o = .error .hostEmpty ↔ Text.trim o.host = []) ∧
    ∀ s, ofOptions o = .ok s →
      ((∃ scheme host, IsUsable scheme host s.baseUrl) ↔ ∃ c ∈ Text.trim o.host, c ≠ '/') ∧
      (∀ scheme host, IsUsable scheme host s.baseUrl → s.client.baseUrl = s.baseUrl ∧
        ∀ call request, s.client.requestOf call = .ok request →
          ∃ url, Http.Url.ofText? (scheme ++ host ++ call.path) = some url ∧
            url.scheme ++ "://".toList = scheme ∧ request.url = url.withoutUser) ∧
      ((∀ c ∈ Text.trim o.host, c = '/') →
        s.baseUrl = secureScheme ∧ s.client.baseUrl = "https:".toList) := by
  refine ⟨ofOptions_hostEmpty_iff o, fun s given => ?_⟩
  obtain ⟨present, base⟩ := ofOptions_ok given
  have bare (slashes : ∀ c ∈ Text.trim o.host, c = '/') : s.baseUrl = secureScheme := by
    rw [base, bare_of_host ((Text.trimEnd_eq_nil_iff _ _).2 slashes)]
  refine ⟨?_, ?_, ?_⟩
  · constructor
    · rintro ⟨scheme, host, usable⟩
      by_contra none
      push Not at none
      have ended := usable.getLast?
      rw [bare none] at ended
      exact ended (by decide)
    · rintro ⟨c, member, other⟩
      rw [base]
      apply usable_of_host
      intro gone
      exact other ((Text.trimEnd_eq_nil_iff _ _).1 gone c member)
  · intro scheme host usable
    have kept : s.client.baseUrl = s.baseUrl := Text.trimEnd_of_getLast? usable.getLast?
    refine ⟨kept, fun call request made => ?_⟩
    obtain ⟨url, read, sent⟩ := Okapi.Client.address_of_requestOf made
    rw [kept, usable.shape] at read
    refine ⟨url, read, ?_, sent⟩
    rw [List.append_assoc] at read
    exact scheme_of_web usable.web read
  · intro slashes
    have cut : Text.trimEnd '/' secureScheme = "https:".toList := by decide
    exact ⟨bare slashes, (congrArg (Text.trimEnd '/') (bare slashes)).trans cut⟩

/-- Blanks around a host, a scheme, and slashes on both sides of a port. -/
theorem base_of_options_padded :
    let o : CommandLine.Options :=
      ⟨['l'], " http://[::1]:9130// ".toList, ['t'], ['u'], ['p'], 60⟩
    let s : Settings := ⟨['l'], "http://[::1]:9130".toList, ['t'], ⟨['u'], ['p']⟩, some 60⟩
    let request : Http.Request :=
      ⟨.post, Okapi.Client.loopbackUrl ["bl-users".toList, "login".toList], ['t'], none,
        Http.contentType, s.credentials.written⟩
    ofOptions o = .ok s ∧ IsUsable plainScheme "[::1]:9130".toList s.baseUrl ∧
      s.client.requestOf (.login s.credentials) = .ok request ∧
      ∃ url, Http.Url.ofText? "http://[::1]:9130/bl-users/login".toList = some url ∧
        request.url = url.withoutUser := by
  intro o s request
  have given : ofOptions o = .ok s := by decide +kernel
  have usable : IsUsable plainScheme "[::1]:9130".toList s.baseUrl :=
    ⟨.inl rfl, by decide, by decide, rfl⟩
  have made : s.client.requestOf (.login s.credentials) = .ok request := by decide +kernel
  obtain ⟨-, keeps, -⟩ := (base_of_options o).2 s given
  obtain ⟨url, read, -, sent⟩ := (keeps _ _ usable).2 _ _ made
  exact ⟨given, usable, made, url, read, sent⟩

/-- A host of two slashes is taken, and nothing of it is left. -/
theorem base_of_slashes :
    let o : CommandLine.Options := ⟨['l'], " // ".toList, ['t'], ['u'], ['p'], 60⟩
    let s : Settings := ⟨['l'], "https://".toList, ['t'], ⟨['u'], ['p']⟩, some 60⟩
    ofOptions o = .ok s ∧ (¬ ∃ scheme host, IsUsable scheme host s.baseUrl) ∧
      s.client.baseUrl = "https:".toList ∧ s.client.baseUrl ≠ s.baseUrl := by
  intro o s
  have given : ofOptions o = .ok s := by decide +kernel
  refine ⟨given, ?_, by decide, by decide⟩
  rintro ⟨scheme, host, usable⟩
  exact usable.getLast? (by decide)

end Settings
end OrderReplay
