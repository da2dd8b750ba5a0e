import OrderReplay.Http.Url
import OrderReplay.Proofs.Http.Path

/-! Addresses that are a server's own with a path pasted behind it. However the path is
spelled, the scheme and the server are read as they are without it, so that the address
stays on that server; only the end of the text can be lost before the path is read. -/
namespace OrderReplay.Http.Url

/-- What is left of the end of an address: blanks and controls behind it go, and tabs and
line ends within it. -/
def tidy (text : Text) : Text :=
  ((text.reverse.dropWhile fun c => decide (c.toNat ≤ 0x20)).reverse).filter fun c =>
    c ≠ '\t' && c ≠ '\n' && c ≠ '\r'

def isTidy (text : Text) : Bool :=
  (text.getLast?.all fun c => 0x20 < c.toNat) && '\t' ∉ text && '\n' ∉ text && '\r' ∉ text

theorem tidy_sublist (text : Text) : (tidy text).Sublist text := by
  have trimmed :
      (text.reverse.dropWhile fun c => decide (c.toNat ≤ 0x20)).reverse.Sublist text := by
    rw [← List.reverse_sublist, List.reverse_reverse]
    exact List.dropWhile_sublist _
  exact List.filter_sublist.trans trimmed

/-- Nothing is lost before the end of the text that comes last. -/
theorem tidy_append {front : Text} (solid : ∀ c ∈ front, 0x20 < c.toNat) (text : Text) :
    tidy (front ++ text) = front ++ tidy text := by
  have whole : (front.reverse.dropWhile fun c => decide (c.toNat ≤ 0x20)) = front.reverse := by
    cases shape : front.reverse with
    | nil => rfl
    | cons c rest =>
      have member : c ∈ front := by rw [← List.mem_reverse, shape]; simp
      have visible := solid c member
      simp only [List.dropWhile_cons]
      rw [if_neg (by simpa using visible)]
  have lines : (front.filter fun c => c ≠ '\t' && c ≠ '\n' && c ≠ '\r') = front := by
    rw [List.filter_eq_self]
    intro c member
    have visible := solid c member
    have other (d : Char) (small : d.toNat ≤ 0x20) : c ≠ d := by
      rintro rfl
      omega
    simp [other '\t' (by decide), other '\n' (by decide), other '\r' (by decide)]
  simp only [tidy, List.reverse_append, List.dropWhile_append]
  split
  · rename_i gone
    rw [List.isEmpty_iff.1 gone, whole, List.reverse_reverse, lines]
    simp
  · rw [List.reverse_append, List.reverse_reverse, List.filter_append, lines]

theorem tidy_solid {text : Text} (solid : ∀ c ∈ text, 0x20 < c.toNat) : tidy text = text := by
  have behind := tidy_append solid []
  rwa [List.append_nil, show tidy [] = [] from rfl, List.append_nil] at behind

theorem tidy_blank {c : Char} (blank : c.toNat ≤ 0x20) (front : Text) :
    tidy (front ++ [c]) = tidy front := by
  simp [tidy, blank]

theorem tidy_eq_iff (text : Text) : tidy text = text ↔ isTidy text = true := by
  rcases List.eq_nil_or_concat text with rfl | ⟨front, c, rfl⟩
  · simp [tidy, isTidy]
  rw [List.concat_eq_append]
  constructor
  · intro same
    have visible : 0x20 < c.toNat := by
      apply Nat.lt_of_not_le
      intro blank
      rw [tidy_blank blank] at same
      have shorter := (tidy_sublist front).length_le
      rw [same, List.length_append, List.length_singleton] at shorter
      omega
    have kept : ∀ d ∈ tidy (front ++ [c]), (d ≠ '\t' && d ≠ '\n' && d ≠ '\r') = true :=
      fun d member => (List.mem_filter.1 member).2
    rw [same] at kept
    have free (d : Char) (dropped : (d ≠ '\t' && d ≠ '\n' && d ≠ '\r') = false) :
        d ∉ front ++ [c] := fun member => by rw [kept d member] at dropped; cases dropped
    have tab := free '\t' (by decide)
    have newline := free '\n' (by decide)
    have carriage := free '\r' (by decide)
    simp [isTidy, visible, tab, newline, carriage]
  · intro clear
    simp only [isTidy, Bool.and_eq_true, List.getLast?_append, List.getLast?_singleton,
      Option.some_or, Option.all_some, decide_eq_true_eq] at clear
    obtain ⟨⟨⟨visible, tab⟩, newline⟩, carriage⟩ := clear
    have trimmed : ((front ++ [c]).reverse.dropWhile fun c => decide (c.toNat ≤ 0x20)).reverse =
        front ++ [c] := by
      rw [List.reverse_append, List.reverse_singleton, List.singleton_append, List.dropWhile_cons,
        if_neg (by simpa using visible)]
      simp
    rw [tidy, trimmed, List.filter_eq_self]
    intro d member
    have other (mark : Char) (absent : mark ∉ front ++ [c]) : d ≠ mark := by
      rintro rfl
      exact absent member
    simp [other '\t' tab, other '\n' newline, other '\r' carriage]

/-! ### Scheme and server -/

def isServerChar (c : Char) : Bool := 0x20 < c.toNat && c ∉ ['/', '\\', '?', '#']

/-- An address as it is written in full, of which nothing but scheme and server is given:
no path, query or fragment. -/
structure IsBase (text : Text) (base : Url) : Prop where
  shape : ∃ scheme server, text = scheme ++ ':' :: '/' :: '/' :: server ∧
    scheme.all isSchemeChar = true ∧ server.all isServerChar = true
  read : ofText? text = some base

theorem schemeChar_plain {c : Char} (member : isSchemeChar c = true) :
    0x20 < c.toNat ∧ c ≠ ':' := by
  refine ⟨Text.visible_of_kind isSchemeChar (by decide) member, ?_⟩
  rintro rfl
  revert member
  decide

theorem scheme?_of_shape {scheme : Text} (plain : scheme.all isSchemeChar = true) (rest : Text) :
    scheme? (scheme ++ ':' :: rest) =
      if (scheme.head?.map Path.isAlpha).getD false then some (Text.lower scheme, rest)
      else none := by
  have colon : ':' ∉ scheme := by
    intro member
    exact (schemeChar_plain (List.all_eq_true.1 plain ':' member)).2 rfl
  rw [scheme?, Text.cut_append colon, Text.cut_mark, List.append_nil]
  simp only [plain, Bool.and_true]

theorem userinfo?_suffix {text before after : Text} (read : userinfo? text = some (before, after)) :
    after <:+ text := by
  induction text generalizing before with
  | nil => cases read
  | cons c rest ih =>
    rw [userinfo?] at read
    cases later : userinfo? rest with
    | some found =>
      rw [later] at read
      cases read
      exact (ih later).trans (List.suffix_cons _ _)
    | none =>
      rw [later] at read
      simp only [Option.ite_none_right_eq_some, Option.some.injEq, Prod.mk.injEq] at read
      exact read.2.2 ▸ List.suffix_cons _ _

theorem hostAndPort_suffix (inBrackets : Bool) {text port : Text}
    (read : (hostAndPort inBrackets text).2 = some port) : port <:+ text := by
  induction text generalizing inBrackets with
  | nil => cases read
  | cons c rest ih =>
    rw [hostAndPort] at read
    split at read
    · cases read
      exact List.suffix_cons _ _
    · exact (ih _ read).trans (List.suffix_cons _ _)

def userAndServer (front : Text) : Text × Text := (userinfo? front).getD ([], front)

def portOf? (kind : SchemeKind) : Option Text → Option (Option Nat)
  | none => some none
  | some text => port? kind text

def whole? (kind : SchemeKind) (front : Text) : Option Authority :=
  let (username, password) := user (userAndServer front).1
  let (hostText, portText) := hostAndPort false (userAndServer front).2
  if hostText = [] ∧ (username ≠ [] ∨ password ≠ none ∨ portText.isSome) then none
  else do
    let host ← host? kind hostText
    let port ← portOf? kind portText
    some ⟨username, password, host, port⟩

theorem userAndServer_suffix (front : Text) : (userAndServer front).2 <:+ front := by
  unfold userAndServer
  cases found : userinfo? front with
  | none => exact List.suffix_refl _
  | some parts => exact userinfo?_suffix found

theorem while_all {p : Char → Bool} {text : Text} (all : ∀ c ∈ text, p c = true) :
    text.takeWhile p = text ∧ text.dropWhile p = [] := by
  have taken : (text ++ []).takeWhile p = text ++ [].takeWhile p := List.takeWhile_append_of_pos all
  have dropped : (text ++ []).dropWhile p = [].dropWhile p := List.dropWhile_append_of_pos all
  simpa using And.intro taken dropped

/-- An authority does not depend on what ends it, but for the at sign that nothing may
follow. -/
theorem authority?_append {kind : SchemeKind} {front behind : Text}
    (plain : ∀ c ∈ front, endsAuthority kind c = false ∧ c ≠ '\\')
    (ended : ∀ c ∈ behind.head?, endsAuthority kind c = true) :
    authority? kind (front ++ behind) =
      if (userAndServer front).1 = [] ∧ (userAndServer front).2 = [] ∧ front ≠ [] ∧ behind ≠ [] then
        none
      else (whole? kind front).map fun a => (a, behind) := by
  have inside : ∀ c ∈ front, (!endsAuthority kind c) = true := fun c member => by
    simp [(plain c member).1]
  have taken : (front ++ behind).takeWhile (fun c => !endsAuthority kind c) = front := by
    rw [List.takeWhile_append_of_pos inside]
    cases behind with
    | nil => simp
    | cons c tail => simp [ended c (by simp)]
  have dropped : (front ++ behind).dropWhile (fun c => !endsAuthority kind c) = behind := by
    rw [List.dropWhile_append_of_pos inside]
    cases behind with
    | nil => rfl
    | cons c tail => simp [ended c (by simp)]
  have port_plain : ∀ text, (hostAndPort false (userAndServer front).2).2 = some text →
      ∀ c ∈ text, decide (c ≠ '\\') = true := by
    intro text read c member
    have suffix := (hostAndPort_suffix false read).trans (userAndServer_suffix front)
    simpa using (plain c (suffix.mem member)).2
  have found : (userinfo? front).getD ([], front) = userAndServer front := rfl
  simp only [authority?, taken, dropped, whole?, found]
  by_cases at_end : (userAndServer front).1 = [] ∧ (userAndServer front).2 = [] ∧ front ≠ [] ∧
      behind ≠ []
  · rw [if_pos at_end, if_pos at_end]
    rfl
  · rw [if_neg at_end, if_neg at_end]
    split
    · rfl
    · cases host? kind (hostAndPort false (userAndServer front).2).1 with
      | none => rfl
      | some host =>
        cases port : (hostAndPort false (userAndServer front).2).2 with
        | none => rfl
        | some text =>
          obtain ⟨kept, gone⟩ := while_all (port_plain text port)
          simp only [kept, gone, List.nil_append, portOf?]
          cases port? kind text <;> rfl

theorem withFileHost?_scheme {scheme text : Text} {url : Url}
    (read : withFileHost? scheme text = some url) : url.scheme = scheme := by
  simp only [withFileHost?] at read
  generalize text.dropWhile (fun c => !endsAuthority .file c) = behind at read
  split at read
  · cases read
    rfl
  · have hosted (host : Host) {here : Url} (read : (if host = .name [] ∨
        host = .name "localhost".toList then
          some (onHost scheme (.name []) (slashed .file behind) behind)
        else some (onHost scheme host (unrooted (slashed .file behind)) behind)) = some here) :
        here.scheme = scheme := by
      split at read <;> cases read <;> rfl
    split at read
    · exact hosted (.name []) read
    · obtain ⟨host, _, read⟩ := Option.bind_eq_some_iff.1 read
      exact hosted host read

theorem ofText?_scheme {text : Text} {url : Url} (read : ofText? text = some url) :
    ∃ rest, scheme? (clean text) = some (url.scheme, rest) := by
  rw [ofText?] at read
  cases begun : scheme? (clean text) with
  | none => rw [begun] at read; cases read
  | some parts =>
    obtain ⟨scheme, rest⟩ := parts
    rw [begun] at read
    simp only [Option.bind_eq_bind, Option.bind_some] at read
    have same : url.scheme = scheme := by
      split at read
      · obtain ⟨_, _, shape⟩ := Option.bind_eq_some_iff.1 read
        cases shape
        rfl
      · split at read
        · exact withFileHost?_scheme read
        · cases read
          rfl
      · split at read
        · obtain ⟨_, _, shape⟩ := Option.bind_eq_some_iff.1 read
          cases shape
          rfl
        · cases read
          rfl
        · cases read
          rfl
    exact ⟨rest, by rw [same]⟩

theorem host?_web {port : Nat} {text : Text} {host : Host}
    (read : host? (.web port) text = some host) : text ≠ [] ∧ host ≠ .name [] := by
  have empty : Host.ofText? [] = none := by decide +kernel
  refine ⟨fun none_given => ?_, ?_⟩
  · rw [none_given, host?, empty] at read
    cases read
  · rintro rfl
    rw [host?, Host.ofText?] at read
    split at read
    · rw [Host.bracketed?] at read
      split at read
      · simp at read
      · cases read
    · obtain ⟨name, _, read⟩ := Option.bind_eq_some_iff.1 read
      split at read
      · cases read
      · split at read
        · simp at read
        · rename_i given _
          exact given (by simpa using read)

theorem whole?_host {port : Nat} {front : Text} {a : Authority}
    (read : whole? (.web port) front = some a) :
    (userAndServer front).2 ≠ [] ∧ a.host ≠ .name [] := by
  simp only [whole?] at read
  split at read
  · cases read
  · obtain ⟨host, hosted, read⟩ := Option.bind_eq_some_iff.1 read
    obtain ⟨port, _, shape⟩ := Option.bind_eq_some_iff.1 read
    obtain ⟨given, named⟩ := host?_web hosted
    cases shape
    refine ⟨fun missing => given ?_, named⟩
    rw [missing, hostAndPort]

theorem kind_web {scheme : Text} (web : scheme = http ∨ scheme = https) :
    ∃ port, kind scheme = .web port := by
  rcases web with rfl | rfl
  · exact ⟨80, rfl⟩
  · exact ⟨443, rfl⟩

theorem clean_append {front : Text} (solid : ∀ c ∈ front, 0x20 < c.toNat) (given : front ≠ [])
    (text : Text) : clean (front ++ text) = front ++ tidy text := by
  obtain ⟨c, rest, rfl⟩ := List.exists_cons_of_ne_nil given
  have visible := solid c (by simp)
  have whole : (c :: rest ++ text).dropWhile (fun c => decide (c.toNat ≤ 0x20)) =
      c :: rest ++ text := by
    rw [List.cons_append, List.dropWhile_cons, if_neg (by simpa using visible)]
  exact (congrArg tidy whole).trans (tidy_append solid text)

section
variable {scheme server : Text} (plain : server.all isServerChar = true)
include plain

theorem clean_base (named : scheme.all isSchemeChar = true) (behind : Text) :
    clean (scheme ++ ':' :: '/' :: '/' :: server ++ behind) =
      scheme ++ ':' :: '/' :: '/' :: server ++ tidy behind := by
  refine clean_append (fun c member => ?_) (by simp) behind
  simp only [List.mem_append, List.mem_cons] at member
  rcases member with inside | rfl | rfl | rfl | inside
  · exact (schemeChar_plain (List.all_eq_true.1 named c inside)).1
  · decide
  · decide
  · decide
  · have shown := List.all_eq_true.1 plain c inside
    simp only [isServerChar, Bool.and_eq_true, decide_eq_true_eq] at shown
    exact shown.1

theorem server_ends (port : Nat) {c : Char} (inside : c ∈ server) :
    endsAuthority (.web port) c = false ∧ c ≠ '\\' := by
  have shown := List.all_eq_true.1 plain c inside
  simp only [isServerChar, Bool.and_eq_true, decide_eq_true_eq, List.mem_cons, not_or] at shown
  obtain ⟨-, slash, backslash, mark, hash, -⟩ := shown
  exact ⟨by simp [endsAuthority, isSlash, slash, backslash, mark, hash], backslash⟩

theorem dropWhile_slashes (port : Nat) {behind : Text} (ended : server = [] → behind = []) :
    ('/' :: '/' :: server ++ behind).dropWhile (isSlash (.web port)) = server ++ behind := by
  have slash : isSlash (.web port) '/' = true := rfl
  cases shape : server with
  | nil => simp [ended shape, slash]
  | cons c rest =>
    have ends := (server_ends plain port (show c ∈ server by simp [shape])).1
    have other : isSlash (.web port) c = false := by
      simp only [endsAuthority, Bool.or_eq_false_iff] at ends
      exact ends.1.1
    simp [slash, other]

/-- An address of the web is read as its server and what follows that. -/
theorem ofText?_web (named : scheme.all isSchemeChar = true) {port : Nat}
    (letter : (scheme.head?.map Path.isAlpha).getD false = true)
    (kinds : kind (Text.lower scheme) = .web port) {behind : Text}
    (ended : server = [] → tidy behind = []) :
    ofText? (scheme ++ ':' :: '/' :: '/' :: server ++ behind) =
      (authority? (.web port) (server ++ tidy behind)).map fun found =>
        rooted (.web port) (Text.lower scheme) (some found.1) found.2 := by
  have begun : scheme? (clean (scheme ++ ':' :: '/' :: '/' :: server ++ behind)) =
      some (Text.lower scheme, '/' :: '/' :: server ++ tidy behind) := by
    rw [clean_base plain named, List.append_assoc, List.cons_append, scheme?_of_shape named,
      if_pos letter]
  simp only [ofText?, begun, Option.bind_eq_bind, Option.bind_some, kinds,
    dropWhile_slashes plain port ended]
  cases authority? (.web port) (server ++ tidy behind) <;> rfl

end

variable {text : Text} {base : Url}

theorem IsBase.spelled (given : IsBase text base) : ∃ scheme server,
    text = scheme ++ ':' :: '/' :: '/' :: server ∧ scheme.all isSchemeChar = true ∧
      server.all isServerChar = true ∧ (scheme.head?.map Path.isAlpha).getD false = true ∧
      Text.lower scheme = base.scheme := by
  obtain ⟨scheme, server, rfl, named, plain⟩ := given.shape
  obtain ⟨rest, begun⟩ := ofText?_scheme given.read
  have alone := clean_base plain named []
  rw [List.append_nil, show tidy [] = [] from rfl, List.append_nil] at alone
  rw [alone, scheme?_of_shape named, Option.ite_none_right_eq_some, Option.some.injEq,
    Prod.mk.injEq] at begun
  exact ⟨scheme, server, rfl, named, plain, begun.1, begun.2.1⟩

/-- Nothing behind a server changes the scheme. -/
theorem IsBase.scheme_below (given : IsBase text base) {behind : Text} {url : Url}
    (read : ofText? (text ++ behind) = some url) : url.scheme = base.scheme := by
  obtain ⟨scheme, server, rfl, named, plain, letter, lowered⟩ := given.spelled
  obtain ⟨rest, found⟩ := ofText?_scheme read
  rw [clean_base plain named, List.append_assoc, List.cons_append, scheme?_of_shape named,
    if_pos letter, Option.some.injEq, Prod.mk.injEq] at found
  exact found.1.symm.trans lowered

/-- A path behind a server of the web leaves the server as it is. -/
theorem IsBase.below (given : IsBase text base) (web : base.scheme = http ∨ base.scheme = https)
    (path : Text) :
    ∃ a port, base.authority = some a ∧ a.host ≠ .name [] ∧
      ofText? (text ++ '/' :: path) =
        some (rooted (.web port) base.scheme base.authority ('/' :: tidy path)) := by
  obtain ⟨scheme, server, rfl, named, plain, letter, lowered⟩ := given.spelled
  obtain ⟨port, kinds⟩ := kind_web web
  rw [← lowered] at kinds
  have read := ofText?_web plain named letter kinds
    (show server = [] → tidy [] = [] from fun _ => rfl)
  have ends (c : Char) (inside : c ∈ server) := server_ends plain port inside
  rw [List.append_nil, given.read, show tidy [] = [] from rfl,
    authority?_append ends (by simp), if_neg (by simp), Option.map_map] at read
  obtain ⟨a, whole, shape⟩ := Option.map_eq_some_iff.1 read.symm
  obtain ⟨hosted, host⟩ := whole?_host whole
  have shape : base.authority = some a := by
    rw [← shape]
    rfl
  have solid : tidy ('/' :: path) = '/' :: tidy path :=
    tidy_append (List.forall_mem_singleton.2 (by decide)) path
  have server_given : server ≠ [] := by
    rintro rfl
    exact hosted rfl
  have at_end : ¬((userAndServer server).1 = [] ∧ (userAndServer server).2 = [] ∧ server ≠ [] ∧
      '/' :: tidy path ≠ []) := fun all => hosted all.2.1
  refine ⟨a, port, shape, host, ?_⟩
  rw [ofText?_web plain named letter kinds (fun missing => absurd missing server_given), solid,
    authority?_append ends (by simp [endsAuthority, isSlash]), if_neg at_end, whole, lowered, shape]
  rfl

/-! ### What a request asks for -/

theorem parts_append {front : Text} (plain : '?' ∉ front ∧ '#' ∉ front) (text : Text) :
    parts (front ++ text) = (front ++ (parts text).1, (parts text).2) := by
  simp only [parts, Text.cut_append plain.2, Text.cut_append plain.1]

theorem parts_plain {text : Text} (plain : '?' ∉ text ∧ '#' ∉ text) :
    parts text = (text, none, none) := by
  simp only [parts, Text.cut_plain plain.2, Text.cut_plain plain.1]

theorem parts_front (text : Text) :
    (parts text).1.Sublist text ∧ '?' ∉ (parts text).1 ∧ '#' ∉ (parts text).1 := by
  have before := Text.cut_front '#' text
  have path := Text.cut_front '?' (Text.cut '#' text).1
  exact ⟨path.1.trans before.1, path.2, fun member => before.2 (path.1.mem member)⟩

def queryShown : Option Text → Text
  | some query => '?' :: query
  | none => []

/-- Behind a server the path is never mistaken for one. -/
theorem rooted_target (port : Nat) (scheme text : Text) (a : Authority) :
    (rooted (.web port) scheme (some a) text).target =
      Path.shown (Path.segments false (unrooted (slashed (.web port) text))) ++
        queryShown ((parts text).2.1.map (Percent.encode Percent.webQuery)) := by
  simp only [target, pathShown, rooted, withPath, reduceCtorEq, false_and, if_false]
  cases (parts text).2.1 <;> rfl

/-- User and password are all that an address can lose. -/
theorem withoutUser_cases (url : Url) :
    url.withoutUser = url ∨ ∃ a, url.authority = some a ∧
      url.withoutUser =
        { url with authority := some { a with username := [], password := none } } := by
  unfold withoutUser
  split
  · exact .inl rfl
  · rename_i a given
    dsimp only
    split
    · exact .inr ⟨a, given, rfl⟩
    · exact .inl rfl

theorem withoutUser_target (url : Url) : url.withoutUser.target = url.target := by
  rcases withoutUser_cases url with same | ⟨a, given, shape⟩
  · rw [same]
  · rw [shape]
    simp [target, pathShown, given]

theorem withoutUser_origin (url : Url) : url.withoutUser.origin = url.origin := by
  rcases withoutUser_cases url with same | ⟨a, given, shape⟩
  · rw [same]
  · rw [shape]
    simp [origin, given]

end OrderReplay.Http.Url
