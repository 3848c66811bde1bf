import Playground.Exchange.Remote
import Playground.Proofs.Url.Reread

/-!
Where the requests to a share service go. The URL of a service is kept as a directory, below which
the paths of the requests are resolved. Main statement: every request goes to the scheme, the
credentials, the host and the port of the service's URL, to a path that begins with its path.
-/

namespace Playground

namespace Url

open Reader

structure Below (base : Url) (path : String) (u : Url) : Prop where
  scheme : u.scheme = base.scheme
  authority : u.authority = base.authority
  path : u.path.text = base.path.text ++ path
  query : u.query = none
  fragment : u.fragment = none

theorem Below.text_eq {base u : Url} {path : String} (below : base.Below path u) {a : Authority}
    (served : base.authority = some a) : u.text = base.origin ++ base.path.text ++ path := by
  have origin : u.origin = base.origin := by
    simp only [Url.origin, below.authority, below.scheme, served]
  simp only [Url.text, origin, below.path, below.query, below.fragment, marked, String.append_empty,
    String.append_assoc]

theorem isSegment_of_plain {cs : List Char} (plain : IsPlain cs) : IsSegment cs where
  safe c member :=
    have own := plain_of_isAlphanum (plain c member)
    ⟨own.2.2.1, own.2.1⟩
  noDot := (not_dots plain).1
  noDoubleDot := (not_dots plain).2

theorem pathChars_concat (names : List String) (last : String) :
    pathChars (names ++ [last]) = pathChars names ++ '/' :: last.toList := by
  simp [pathChars]

section Directory

variable {u : Url} (legible : u.Legible)
include legible

/-- A URL of the web is kept with a slash at the end of its path, which is added where there is
none. -/
theorem path_asDirectory : ∃ names, u.asDirectory.path = .segments (names ++ [""]) ∧
    (u.asDirectory.path.text = u.path.text ∨
      u.asDirectory.path.text = u.path.text ++ "/" ∧ ∀ front, u.path.text ≠ front ++ "/") := by
  obtain ⟨names, path, filled, each⟩ := legible.path
  have web := ne_file_of_web legible.web
  obtain ⟨front, last, rfl⟩ := (List.eq_nil_or_concat names).resolve_left filled
  rw [List.concat_eq_append] at path each
  by_cases ends : last = ""
  · subst ends
    have kept : u.asDirectory.path = .segments (front ++ [""]) := by
      simp [asDirectory, web, path, Path.asDirectory]
    exact ⟨front, kept, .inl (by rw [kept, path])⟩
  · have added : u.asDirectory.path = .segments (front ++ [last] ++ [""]) := by
      simp [asDirectory, web, path, Path.asDirectory, ends]
    refine ⟨front ++ [last], added, .inr ⟨?_, fun before same => ?_⟩⟩
    · rw [added, path, ← String.toList_inj, String.toList_append, toList_text_segments,
        toList_text_segments, pathChars_concat]
      simp
    · -- The last segment would end with a slash.
      rw [path, ← String.toList_inj, String.toList_append, toList_text_segments,
        pathChars_concat] at same
      have lettered : last.toList ≠ [] := by simpa using ends
      obtain ⟨letters, c, spelled⟩ := (List.eq_nil_or_concat last.toList).resolve_left lettered
      rw [List.concat_eq_append] at spelled
      rw [spelled] at same
      have final : (pathChars front ++ '/' :: letters) ++ [c] = before.toList ++ ['/'] := by
        simpa using same
      obtain rfl : c = '/' := by simpa using (List.append_inj' final rfl).2
      have slash := ((each last (by simp)).safe '/' (by simp [spelled])).2
      cases slash

end Directory

theorem child_of_directory {u : Url} (web : u.scheme = "http" ∨ u.scheme = "https")
    {names : List String} (path : u.path = .segments (names ++ [""]))
    {inner : List String} (each : ∀ s ∈ inner, IsSegment s.toList) {text : String}
    (cleaned : clean text = text.toList)
    (split : splitOn (isSlash true) text.toList = inner.map String.toList) :
    u.child text =
      .ok { u with path := .segments (names ++ inner), query := none, fragment := none } := by
  have noFile : (u.scheme == "file") = false := by simpa using ne_file_of_web web
  have directory : (names ++ [""]).reverse.drop 1 = names.reverse := by simp
  have order : (inner.reverse ++ names.reverse).reverse = names ++ inner := by simp
  simp only [child, path, cleaned, segments, allSegments, directory, noFile, isSpecial_of_web web,
    split, resolve_segments each, Bool.false_eq_true, if_false, order]

end Url

namespace Exchange.Remote

open Url Url.Reader

variable {r : Remote}

theorem create_eq_ok_iff {url : String} :
    create url = .ok r ↔ ∃ u, Url.parse url = .ok u ∧ r.base = u.asDirectory := by
  unfold create
  cases r with
  | mk base => cases Url.parse url <;> simp [eq_comm]

def Reaches (r : Remote) (request : Request) (path : String) : Prop :=
  ∃ u, r.target (requestPath request) = .ok u ∧ r.base.Below path u ∧
    r.address request = .ok u.withoutCredentials

section Base

variable (web : r.base.scheme = "http" ∨ r.base.scheme = "https") {names : List String}
  (directory : r.base.path = .segments (names ++ [""]))
include web directory

theorem reaches_of_plain {first : String} {rest : List String}
    (each : ∀ s ∈ first :: rest, IsPlain s.toList) (filled : first.toList ≠ []) {path : String}
    (spelled : path.toList = first.toList ++ pathChars rest) {request : Request}
    (asked : requestPath request = "/" ++ path) : r.Reaches request path := by
  have safe (s : String) (member : s ∈ first :: rest) : IsSegment s.toList :=
    isSegment_of_plain (each s member)
  have free (s : String) (member : s ∈ first :: rest) (c : Char) (inside : c ∈ s.toList) :
      isSlash true c = false := ((safe s member).safe c inside).2
  have cleaned : clean path = path.toList := by
    refine clean_of_large fun c member => ?_
    have whole : pathChars (first :: rest) = '/' :: path.toList := by simp [pathChars, spelled]
    exact (of_mem_pathChars safe c (whole ▸ List.mem_cons_of_mem '/' member)).1
  have split : splitOn (isSlash true) path.toList = (first :: rest).map String.toList := by
    rw [spelled, splitOn_pathChars (free first List.mem_cons_self)
      fun s member => free s (List.mem_cons_of_mem first member)]
    rfl
  have relative : String.ofList ((requestPath request).toList.dropWhile (· == '/')) = path := by
    obtain ⟨c, cs, letters⟩ := List.exists_cons_of_ne_nil filled
    have open' : c ≠ '/' := ne_of_plain (each first List.mem_cons_self) rfl c (by simp [letters])
    rw [← String.toList_inj, String.toList_ofList, asked]
    simp [spelled, letters, open']
  have resolved := child_of_directory web directory safe cleaned split
  have target : r.target (requestPath request) = .ok { r.base with
      path := .segments (names ++ first :: rest), query := none, fragment := none } := by
    rw [Remote.target, relative, resolved]
  refine ⟨_, target, ⟨rfl, rfl, ?_, rfl, rfl⟩, ?_⟩
  · rw [directory, ← String.toList_inj, String.toList_append, toList_text_segments,
      toList_text_segments, pathChars_concat, spelled]
    simp [pathChars]
  · have known : (r.base.scheme = "http" || r.base.scheme = "https") = true := by simpa using web
    rw [address, target]
    exact if_pos known

end Base

/-- A service of the web is kept at the path of its URL, with a slash at the end, which is added
where there is none; nothing else of the URL changes. A request for a share and one that publishes
each go to the scheme, the credentials, the host and the port of that URL, to the path of the kept
one and what belongs to the request behind it, without a query and without a fragment. -/
theorem requests_below_base {url : String} (created : create url = .ok r)
    (web : r.base.scheme = "http" ∨ r.base.scheme = "https") :
    ∃ u, Url.parse url = .ok u ∧ r.base = { u with path := r.base.path } ∧
      (∃ front, r.base.path.text = front ++ "/") ∧
      (r.base.path.text = u.path.text ∨
        r.base.path.text = u.path.text ++ "/" ∧ ∀ front, u.path.text ≠ front ++ "/") ∧
      (∀ h : Handle, r.Reaches (fetchRequest h) ("share/" ++ h.token)) ∧
      ∀ body, r.Reaches (publishRequest body) "share" := by
  obtain ⟨u, parsed, base⟩ := create_eq_ok_iff.mp created
  have legible : u.Legible := legible_of_parse parsed (by rw [base] at web; exact web)
  obtain ⟨names, directory, text⟩ := path_asDirectory legible
  rw [← base] at directory text
  have share : IsPlain "share".toList := by
    have letters : "share".toList = ['s', 'h', 'a', 'r', 'e'] := by simp
    rw [letters]
    exact List.all_eq_true.mp rfl
  refine ⟨u, parsed, by rw [base]; rfl, ?slash, text, fun h => ?fetch, fun body => ?publish⟩
  case slash =>
    refine ⟨String.ofList (pathChars names), ?_⟩
    rw [directory, ← String.toList_inj, toList_text_segments, pathChars_concat]
    simp
  case fetch =>
    have each : ∀ s ∈ ["share", h.token], IsPlain s.toList := by
      simpa using ⟨share, h.isPlain_token⟩
    exact reaches_of_plain web directory each (by simp) (by simp [pathChars]) rfl
  case publish =>
    have each : ∀ s ∈ ["share"], IsPlain s.toList := by simpa using share
    exact reaches_of_plain web directory each (by simp) (by simp [pathChars]) rfl

/-- A service at a host with credentials and a port, below a path without a slash at its end. -/
theorem requests_below_base_mounted :
    let u : Url := ⟨"http", some ⟨"me", "pw", .domain "localhost", some 8080⟩,
      .segments ["api", "v1"], some "x=1", some "top"⟩
    let r : Remote := ⟨{ u with path := .segments ["api", "v1", ""] }⟩
    let h : Handle := ⟨"ab12", by decide⟩
    create "http://me:pw@LOCALHOST:8080/x/../api/v1?x=1#top" = .ok r ∧ r.base.scheme = "http" ∧
      ∃ v, r.target (requestPath (fetchRequest h)) = .ok v ∧
        v.text = "http://me:pw@localhost:8080/api/v1/share/ab12" := by
  intro u r h
  have parsed : Url.parse "http://me:pw@LOCALHOST:8080/x/../api/v1?x=1#top" = .ok u := by
    decide +kernel
  have created : create "http://me:pw@LOCALHOST:8080/x/../api/v1?x=1#top" = .ok r :=
    create_eq_ok_iff.mpr ⟨u, parsed, by decide⟩
  obtain ⟨-, -, -, -, -, fetches, -⟩ := requests_below_base created (.inl rfl)
  obtain ⟨v, target, below, -⟩ := fetches h
  refine ⟨created, rfl, v, target, ?_⟩
  rw [below.text_eq rfl]
  decide

end Exchange.Remote

end Playground
