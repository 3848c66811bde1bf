import Playground.Proofs.History
import Playground.Proofs.Url.Reread

/-!
Paths of shares. A path has a handle exactly if it is `/s/` and hexadecimal digits, with or without
a slash behind them, and this is what reading a URL leaves of it. Main statement: handles and their
paths correspond, so that what is pushed when a project is published leads back to its handle, and
every other path leads to none.
-/

namespace Playground

namespace Handle

def IsToken (s : String) : Prop := s ≠ "" ∧ ∀ c ∈ s.toList, Text.Hex.isDigit c = true

theorem accepts_iff {s : String} : accepts s = true ↔ IsToken s := by
  simp [accepts, IsToken]

theorem dropSlash_eq_iff {cs rest : List Char} (open' : rest.getLast? ≠ some '/') :
    dropSlash cs = rest ↔ cs = rest ∨ cs = rest ++ ['/'] := by
  constructor
  · intro dropped
    unfold dropSlash at dropped
    split at dropped
    case isTrue slash =>
      obtain ⟨front, rfl⟩ := List.getLast?_eq_some_iff.mp slash
      rw [List.dropLast_concat] at dropped
      exact .inr (congrArg (· ++ ['/']) dropped)
    case isFalse => exact .inl dropped
  · rintro (rfl | rfl)
    · exact if_neg open'
    · simp [dropSlash]

theorem getLast?_token (h : Handle) : h.token.toList.getLast? ≠ some '/' := fun last =>
  absurd (isPlain_token h '/' (List.mem_of_getLast? last)) (by decide)

theorem toList_path (h : Handle) : h.path.toList = '/' :: 's' :: '/' :: h.token.toList := by
  simp [path]

theorem ofPath?_eq_some_iff {path : String} {h : Handle} :
    ofPath? path = some h ↔ path = h.path ∨ path = h.path ++ "/" := by
  have slash : "/".toList = ['/'] := by simp
  have spelled : (path = h.path ∨ path = h.path ++ "/") ↔
      ∃ rest, path.toList = '/' :: 's' :: '/' :: rest ∧
        (rest = h.token.toList ∨ rest = h.token.toList ++ ['/']) := by
    rw [← String.toList_inj, ← String.toList_inj, String.toList_append, toList_path, slash]
    constructor
    · rintro (same | same)
      · exact ⟨_, same, .inl rfl⟩
      · exact ⟨_, same, .inr rfl⟩
    · rintro ⟨rest, same, rfl | rfl⟩
      · exact .inl same
      · exact .inr same
  have token (rest : List Char) : ofString? (String.ofList (dropSlash rest)) = some h ↔
      rest = h.token.toList ∨ rest = h.token.toList ++ ['/'] := by
    rw [ofString?_eq_some_iff, ← String.toList_inj, String.toList_ofList,
      dropSlash_eq_iff h.getLast?_token]
  rw [spelled]
  unfold ofPath?
  split
  case h_1 rest found =>
    rw [token, found]
    simp
  case h_2 other =>
    simp only [reduceCtorEq, false_iff, not_exists, not_and]
    exact fun rest found => absurd found (other rest)

end Handle

namespace Url

open Reader

theorem text_segments_inj {names names' : List String}
    (each : ∀ s ∈ names, ∀ c ∈ s.toList, isSlash true c = false)
    (each' : ∀ s ∈ names', ∀ c ∈ s.toList, isSlash true c = false) :
    (Path.segments names).text = (Path.segments names').text ↔ names = names' := by
  constructor
  · intro same
    rw [← String.toList_inj, toList_text_segments, toList_text_segments] at same
    have first : ∀ c ∈ ([] : List Char), isSlash true c = false := by simp
    have split := splitOn_pathChars first each
    rw [same, splitOn_pathChars first each', List.cons.injEq] at split
    exact ((List.map_inj_right fun _ _ => String.toList_inj.mp).mp split.2).symm
  · rintro rfl
    rfl

theorem isSlash_share (h : Handle) :
    ∀ s ∈ ["s", h.token, ""], ∀ c ∈ s.toList, isSlash true c = false := by
  have plain {s : String} (plain : IsPlain s.toList) : ∀ c ∈ s.toList, isSlash true c = false :=
    fun c member => (plain_of_isAlphanum (plain c member)).2.1
  have share : "s".toList = ['s'] := by simp
  simp only [List.forall_mem_cons]
  exact ⟨plain (share ▸ Handle.isPlain_s), plain h.isPlain_token, by simp, by simp⟩

theorem text_eq_path_iff {names : List String} (each : ∀ s ∈ names, IsSegment s.toList) (h : Handle) :
    ((Path.segments names).text = h.path ↔ names = ["s", h.token]) ∧
      ((Path.segments names).text = h.path ++ "/" ↔ names = ["s", h.token, ""]) := by
  have free : ∀ s ∈ names, ∀ c ∈ s.toList, isSlash true c = false :=
    fun s member c inside => ((each s member).safe c inside).2
  have share := isSlash_share h
  have bare : (Path.segments ["s", h.token]).text = h.path := by
    rw [← String.toList_inj, toList_text_segments, h.toList_path]
    simp [pathChars]
  have slash : (Path.segments ["s", h.token, ""]).text = h.path ++ "/" := by
    rw [← String.toList_inj, toList_text_segments, String.toList_append, h.toList_path]
    simp [pathChars]
  rw [← slash, ← bare]
  refine ⟨text_segments_inj free fun s member => share s ?_, text_segments_inj free share⟩
  exact List.mem_append_left [""] member

namespace Reader

theorem strip_before {p : Char → Bool} {cs : List Char} {mark : Char}
    (before : ∀ c ∈ cs, p c = false) (stays : p mark = false) (rest : List Char) :
    ∃ kept, Text.strip p (cs ++ mark :: rest) = cs ++ mark :: kept := by
  have first : (cs ++ mark :: rest).dropWhile p = cs ++ mark :: rest := by
    cases cs with
    | nil => simp [stays]
    | cons c cs => simp [before c List.mem_cons_self]
  have reversed : (cs ++ mark :: rest).reverse = rest.reverse ++ mark :: cs.reverse := by simp
  refine ⟨(rest.reverse.dropWhile p).reverse, ?_⟩
  rw [Text.strip, first, reversed, List.dropWhile_append]
  split
  case isTrue gone => simp [List.isEmpty_iff.mp gone, stays]
  case isFalse => simp

section Query

variable {cs : List Char} (solid : ∀ c ∈ cs, isSolid c = true) (query : List Char)
include solid

theorem clean_of_query : ∃ kept,
    clean (String.ofList (cs ++ '?' :: query)) = cs ++ '?' :: kept := by
  have large (c : Char) (member : c ∈ cs) := large_of_solid (solid c member)
  have stays (c : Char) (member : c ∈ cs) : (!isBreak c) = true := by
    rw [isBreak_of_large (large c member)]
    rfl
  have inner (c : Char) (member : c ∈ cs) : decide (c.toNat ≤ 0x20) = false :=
    decide_eq_false (Nat.not_le.mpr (large c member))
  have mark : decide ('?'.toNat ≤ 0x20) = false := rfl
  obtain ⟨kept, stripped⟩ := strip_before inner mark query
  refine ⟨kept.filter fun c => !isBreak c, ?_⟩
  rw [clean, String.toList_ofList, stripped, List.filter_append, List.filter_eq_self.mpr stays]
  rfl

theorem tail_of_query (scheme : String) : ∃ q f,
    tail scheme (cs ++ '?' :: query) = (cs, some q, f) := by
  have hash : ∀ c ∈ cs, decide (c ≠ '#') = true := ne_of_solid solid rfl
  have question : ∀ c ∈ cs, decide (c ≠ '?') = true := ne_of_solid solid rfl
  have main : (cs ++ '?' :: query).takeWhile (fun c => decide (c ≠ '#')) =
      cs ++ '?' :: query.takeWhile fun c => decide (c ≠ '#') := by
    rw [List.takeWhile_append_of_pos hash]
    simp
  have path : (cs ++ '?' :: query.takeWhile fun c => decide (c ≠ '#')).takeWhile
      (fun c => decide (c ≠ '?')) = cs := by
    rw [List.takeWhile_append_of_pos question]
    simp
  have rest : (cs ++ '?' :: query.takeWhile fun c => decide (c ≠ '#')).dropWhile
      (fun c => decide (c ≠ '?')) = '?' :: query.takeWhile fun c => decide (c ≠ '#') := by
    rw [List.dropWhile_append_of_pos question]
    simp
  simp only [tail, main, path, rest]
  exact ⟨_, _, rfl⟩

theorem parse_localhost_query : ∃ q f,
    Url.parse ("http://localhost/" ++ String.ofList (cs ++ '?' :: query)) = .ok {
      scheme := "http"
      authority := some onLocalhost
      path := .segments (segments "http" [] cs)
      query := some q
      fragment := f } := by
  have plain : IsPlain localhost := List.all_eq_true.mp rfl
  have below : ∀ c ∈ '/' :: '/' :: (localhost ++ '/' :: cs), isSolid c = true := by
    simp only [List.forall_mem_cons, List.forall_mem_append]
    exact ⟨rfl, rfl, plain.isSolid, rfl, solid⟩
  have whole : ∀ c ∈ 'h' :: 't' :: 't' :: 'p' :: ':' :: '/' :: '/' :: (localhost ++ '/' :: cs),
      isSolid c = true := by
    simp only [List.forall_mem_cons] at below ⊢
    exact ⟨rfl, rfl, rfl, rfl, rfl, below⟩
  have spelled : "http://localhost/" ++ String.ofList (cs ++ '?' :: query) =
      String.ofList (('h' :: 't' :: 't' :: 'p' :: ':' :: '/' :: '/' :: (localhost ++ '/' :: cs)) ++
        '?' :: query) := by
    rw [← String.toList_inj]
    simp [localhost]
  obtain ⟨kept, cleaned⟩ := clean_of_query whole query
  obtain ⟨q, f, split⟩ := tail_of_query below kept "http"
  have scheme := scheme?_http (('/' :: '/' :: (localhost ++ '/' :: cs)) ++ '?' :: kept)
  have after := afterScheme_plain plain specialHost_localhost (by decide) cs
  refine ⟨q, f, ?_⟩
  rw [spelled, Url.parse, cleaned]
  simp only [List.cons_append] at scheme split ⊢
  simp only [scheme, split, after]
  rfl

end Query

end Reader

end Url

namespace Location

open Url Url.Reader

theorem parse_path_query (h : Handle) (query : String) :
    ∃ params, parse (h.path ++ "?" ++ query) = .ok ⟨h.path, some h, params⟩ := by
  have first : (h.path ++ "?" ++ query).startsWith "/" = true := by
    rw [String.startsWith_string_iff]
    simp [h.toList_path]
  have text : "http://localhost" ++ (h.path ++ "?" ++ query) = "http://localhost/" ++
      String.ofList ((['s'] ++ '/' :: h.token.toList) ++ '?' :: query.toList) := by
    apply String.toList_inj.mp
    simp [h.toList_path]
  obtain ⟨q, f, read⟩ := parse_localhost_query h.isSolid_path query.toList
  rw [parse, if_pos first, text, read, segments_plain Handle.isPlain_s h.isPlain_token]
  exact ⟨_, congrArg Except.ok (by rw [ofUrl, h.text_segments, h.ofPath?_path])⟩

theorem handle_ofUrl_iff {u : Url} {h : Handle} :
    (ofUrl u).handle = some h ↔ u.path.text = h.path ∨ u.path.text = h.path ++ "/" :=
  Handle.ofPath?_eq_some_iff

/-- A URL of the web has a handle exactly if its segments are those of the path of a share. -/
theorem handle_ofUrl_iff_segments {u : Url} (legible : u.Legible) {h : Handle} :
    (ofUrl u).handle = some h ↔
      u.path = .segments ["s", h.token] ∨ u.path = .segments ["s", h.token, ""] := by
  obtain ⟨names, path, -, each⟩ := legible.path
  obtain ⟨bare, slash⟩ := text_eq_path_iff each h
  rw [handle_ofUrl_iff, path, bare, slash, Path.segments.injEq, Path.segments.injEq]

theorem handle_of_parse {s : String} {l : Location} (read : parse s = .ok l) :
    l.handle = Handle.ofPath? l.path := by
  unfold parse at read
  cases found : Url.parse (if s.startsWith "/" then "http://localhost" ++ s else s) with
  | error e =>
    rw [found] at read
    cases read
  | ok u =>
    rw [found] at read
    cases read
    rfl

end Location

namespace Location

open History

def Handleless (path : String) : Prop :=
  ∀ l, parse path = .ok l → ∀ h : Handle, l.path ≠ h.path ∧ l.path ≠ h.path ++ "/"

theorem handleOf?_of_handleless {path : String} (none : Handleless path) :
    Session.handleOf? path = .none := by
  unfold Session.handleOf?
  split
  case h_1 l read =>
    rw [handle_of_parse read, Option.eq_none_iff_forall_ne_some]
    intro h found
    obtain same | same := Handle.ofPath?_eq_some_iff.mp found
    · exact (none l read h).1 same
    · exact (none l read h).2 same
  case h_2 => rfl

/-- Handles are the texts of hexadecimal digits that are not empty, and a path has one exactly if it
is the path of this handle, with or without a slash behind it. The path of a handle is read as it
stands, with any query, and a URL of the web has a handle exactly if its path is of this form, which
its segments show too. What is pushed in any state leads back, from any other state, to the handle
that was published; the root leads to none, and so does any other path that is not of this form. -/
theorem share_paths_exact :
    (∀ s : String, (∃ h : Handle, h.token = s) ↔ Handle.IsToken s) ∧
    (∀ (path : String) (h : Handle), Handle.ofPath? path = some h ↔
      path = "/s/" ++ h.token ∨ path = "/s/" ++ h.token ++ "/") ∧
    (∀ h : Handle, parse h.path = .ok ⟨h.path, some h, []⟩ ∧
      ∀ query, ∃ params, parse (h.path ++ "?" ++ query) = .ok ⟨h.path, some h, params⟩) ∧
    (∀ (u : Url) (h : Handle), (ofUrl u).handle = some h ↔
      u.path.text = h.path ∨ u.path.text = h.path ++ "/") ∧
    (∀ (s : String) (u : Url), Url.parse s = .ok u → u.scheme = "http" ∨ u.scheme = "https" →
      ∀ h : Handle, (ofUrl u).handle = some h ↔
        u.path = .segments ["s", h.token] ∨ u.path = .segments ["s", h.token, ""]) ∧
    (∀ (s : State) (e : Event) (path : String), .push path ∈ (s.next e).2 →
      ∃ h, e = .published h ∧ ∀ s' : State,
        s'.next (.navigated (Session.handleOf? path)) = (.active h, [.fetch h])) ∧
    (∀ s : State, s.next (.navigated (Session.handleOf? "/")) = (.inactive, [])) ∧
    ∀ (s : State) (path : String), Handleless path →
      s.next (.navigated (Session.handleOf? path)) = (.inactive, []) := by
  have cleared (s : State) : s.next (.navigated none) = (.inactive, []) := by cases s <;> rfl
  refine ⟨?tokens, fun path h => Handle.ofPath?_eq_some_iff, ?read, fun u h => handle_ofUrl_iff,
    ?web, ?pushed, ?root, ?other⟩
  case tokens =>
    intro s
    rw [← Handle.accepts_iff]
    exact ⟨fun ⟨h, same⟩ => same ▸ h.accepted, fun accepted => ⟨⟨s, accepted⟩, rfl⟩⟩
  case read => exact fun h => ⟨parse_path h, parse_path_query h⟩
  case web =>
    exact fun s u read web h => handle_ofUrl_iff_segments (Url.legible_of_parse read web)
  case pushed =>
    intro s e path member
    rw [State.next_snd] at member
    rcases e with h | _ | _ | h
    · obtain rfl : path = h.path := by simpa using member
      refine ⟨h, rfl, fun s' => ?_⟩
      rw [Session.handleOf?_path]
      cases s' <;> rfl
    · dsimp only at member
      split at member <;> simp at member
    · simp at member
    · simp at member
  case root =>
    intro s
    have root : Session.handleOf? "/" = none := Session.handleOf?_rootPath
    rw [root, cleared]
  case other =>
    intro s path handleless
    rw [handleOf?_of_handleless handleless, cleared]

/-- Two slashes, a slash more or another segment behind a handle are no share. -/
example : Handle.ofPath? "/s/AB12/" = Handle.ofString? "AB12" ∧ Handle.ofPath? "/s//ab12" = none ∧
    Handle.ofPath? "/s/ab12//" = none ∧ Handle.ofPath? "/s/" = none := by decide

end Location

end Playground
