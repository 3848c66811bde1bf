import Playground.Proofs.Url.Legible

/-!
URLs that are read back from their text. Each reader of a part is run on the text of that part,
followed by what may follow it. Main statement: a legible URL is read back from its text, except that
its host is what the text of its host is read as.
-/

namespace Playground.Url

open Reader

/-- A character that ends no part of an authority and is kept where a URL is cleaned. -/
def inside (c : Char) : Bool := 0x20 < c.toNat && !endsAuthority true c && c != '@'

theorem inside_iff (c : Char) : inside c = true ↔
    0x20 < c.toNat ∧ endsAuthority true c = false ∧ c ≠ '@' := by
  simp [inside, and_assoc]

theorem large_of_ne {c : Char} (control : Percent.isControl c = false) (space : c ≠ ' ') :
    0x20 < c.toNat := by
  simp only [Percent.isControl, Bool.or_eq_false_iff, decide_eq_false_iff_not] at control
  have apart : c.toNat ≠ 0x20 := fun same => space (Char.toNat_inj.mp same)
  omega

theorem of_inFragment {c : Char} (safe : Percent.inFragment c = false) : 0x20 < c.toNat := by
  simp only [Percent.inFragment, Bool.or_eq_false_iff, List.contains_eq_mem, List.mem_cons,
    decide_eq_false_iff_not, not_or] at safe
  exact large_of_ne safe.1 safe.2.1

theorem of_inPath {c : Char} (safe : Percent.inPath c = false) :
    0x20 < c.toNat ∧ c ≠ '#' ∧ c ≠ '?' := by
  simp only [Percent.inPath, Bool.or_eq_false_iff, List.contains_eq_mem, List.mem_cons,
    decide_eq_false_iff_not, not_or] at safe
  exact ⟨of_inFragment safe.1, safe.2.1, safe.2.2.1⟩

theorem inside_of_inUserinfo {c : Char} (safe : Percent.inUserinfo c = false) :
    inside c = true ∧ c ≠ ':' := by
  simp only [Percent.inUserinfo, Bool.or_eq_false_iff, List.contains_eq_mem, List.mem_cons,
    decide_eq_false_iff_not, not_or] at safe
  obtain ⟨path, slash, colon, -, -, at', -, backslash, -⟩ := safe
  obtain ⟨large, hash, question⟩ := of_inPath path
  refine ⟨(inside_iff c).mpr ⟨large, ?_, at'⟩, colon⟩
  simp [endsAuthority, isSlash, slash, backslash, question, hash]

theorem inside_of_isForbidden {c : Char} (plain : Domain.isForbidden c = false) :
    inside c = true ∧ c ≠ ':' ∧ c ≠ '[' ∧ c ≠ ']' := by
  simp only [Domain.isForbidden, Bool.or_eq_false_iff, List.contains_eq_mem, List.mem_cons,
    decide_eq_false_iff_not, not_or, Nat.not_le] at plain
  obtain ⟨⟨large, -⟩, -, hash, slash, colon, -, -, question, at', opened, backslash, closed, -⟩ :=
    plain
  refine ⟨(inside_iff c).mpr ⟨large, ?_, at'⟩, colon, opened, closed⟩
  simp [endsAuthority, isSlash, slash, backslash, question, hash]

theorem inside_of_bracketed {c : Char} (digit : Text.Hex.isDigit c = true ∨ c = ':') :
    inside c = true ∧ c ≠ ']' := by
  obtain digit | rfl := digit
  · obtain ⟨solid, noSlash, -⟩ := plain_of_isAlphanum (Text.Hex.isAlphanum_of_isDigit digit)
    simp only [isSolid, Bool.and_eq_true, decide_eq_true_eq, bne_iff_ne, ne_eq] at solid
    have at' : c ≠ '@' := by
      rintro rfl
      cases digit
    have closed : c ≠ ']' := by
      rintro rfl
      cases digit
    refine ⟨(inside_iff c).mpr ⟨solid.1.1, ?_, at'⟩, closed⟩
    simp [endsAuthority, noSlash, solid.1.2, solid.2]
  · decide

theorem of_inSpecialQuery {c : Char} (safe : Percent.inSpecialQuery c = false) :
    0x20 < c.toNat ∧ c ≠ '#' := by
  simp only [Percent.inSpecialQuery, Percent.inQuery, Bool.or_eq_false_iff, List.contains_eq_mem,
    List.mem_cons, decide_eq_false_iff_not, not_or] at safe
  obtain ⟨⟨control, space, -, hash, -⟩, -⟩ := safe
  exact ⟨large_of_ne control space, hash⟩

section Authority

variable {rest : List Char}

theorem span_inside {cs : List Char} (within : ∀ c ∈ cs, inside c = true) :
    (cs ++ '/' :: rest).takeWhile (fun c => !endsAuthority true c) = cs ∧
      (cs ++ '/' :: rest).dropWhile (fun c => !endsAuthority true c) = '/' :: rest := by
  have each : ∀ c ∈ cs, (!endsAuthority true c) = true := by
    intro c member
    simp [((inside_iff c).mp (within c member)).2.1]
  have slash : (!endsAuthority true '/') = false := rfl
  rw [List.takeWhile_append_of_pos each, List.dropWhile_append_of_pos each,
    List.takeWhile_cons_of_neg (by simp [slash]), List.dropWhile_cons_of_neg (by simp [slash]),
    List.append_nil]
  exact ⟨rfl, rfl⟩

theorem credentials_none {cs : List Char} (within : ∀ c ∈ cs, inside c = true) :
    credentials true (cs ++ '/' :: rest) = .ok ("", "", cs ++ '/' :: rest) := by
  have noMark : cs.reverse.takeWhile (fun c => decide (c ≠ '@')) = cs.reverse := by
    apply List.takeWhile_eq_self_iff.mpr
    intro c member
    exact decide_eq_true ((inside_iff c).mp (within c (List.mem_reverse.mp member))).2.2
  simp only [credentials, span_inside within, noMark, List.reverse_reverse, if_true]

theorem credentials_some {info cs : List Char} (some : info ≠ [])
    (before : ∀ c ∈ info, inside c = true) (within : ∀ c ∈ cs, inside c = true) :
    credentials true (info ++ '@' :: (cs ++ '/' :: rest)) =
      .ok (userinfo (info.takeWhile (· ≠ ':')), userinfo ((info.dropWhile (· ≠ ':')).drop 1),
        cs ++ '/' :: rest) := by
  have mark : endsAuthority true '@' = false := rfl
  have spelled : info ++ '@' :: (cs ++ '/' :: rest) = (info ++ '@' :: cs) ++ '/' :: rest := by
    simp
  have open' : ∀ c ∈ info ++ '@' :: cs, (!endsAuthority true c) = true := by
    simp only [List.mem_append, List.mem_cons]
    rintro c (first | rfl | last)
    · simp [((inside_iff c).mp (before c first)).2.1]
    · rfl
    · simp [((inside_iff c).mp (within c last)).2.1]
  have slash : (!endsAuthority true '/') = false := rfl
  have taken : (info ++ '@' :: (cs ++ '/' :: rest)).takeWhile (fun c => !endsAuthority true c) =
      info ++ '@' :: cs := by
    rw [spelled, List.takeWhile_append_of_pos open', List.takeWhile_cons_of_neg (by simp [slash]),
      List.append_nil]
  have left : (info ++ '@' :: (cs ++ '/' :: rest)).dropWhile (fun c => !endsAuthority true c) =
      '/' :: rest := by
    rw [spelled, List.dropWhile_append_of_pos open', List.dropWhile_cons_of_neg (by simp [slash])]
  have noMark : ∀ c ∈ cs.reverse, decide (c ≠ '@') = true := fun c member =>
    decide_eq_true ((inside_iff c).mp (within c (List.mem_reverse.mp member))).2.2
  have last : ((info ++ '@' :: cs).reverse.takeWhile (fun c => decide (c ≠ '@'))).reverse = cs := by
    rw [List.reverse_append, List.reverse_cons, List.append_assoc,
      List.takeWhile_append_of_pos noMark]
    simp
  have longer : cs.length ≠ (info ++ '@' :: cs).length := by simp; omega
  have first : (info ++ '@' :: cs).take ((info ++ '@' :: cs).length - cs.length - 1) = info := by
    have length : (info ++ '@' :: cs).length - cs.length - 1 = info.length := by simp; omega
    rw [length, List.take_left]
  have filled : info.isEmpty = false := by simpa using some
  simp only [credentials, taken, left, last, if_neg longer, first, filled, Bool.false_eq_true,
    if_false]

theorem credentials_text {scheme : String} {a : Authority} (legible : a.Legible scheme)
    {cs : List Char} (within : ∀ c ∈ cs, inside c = true) :
    credentials true (a.credentials.toList ++ (cs ++ '/' :: rest)) =
      .ok (a.username, a.password, cs ++ '/' :: rest) := by
  have name (c : Char) (member : c ∈ a.username.toList) :=
    inside_of_inUserinfo (legible.username c member)
  have word (c : Char) (member : c ∈ a.password.toList) :=
    inside_of_inUserinfo (legible.password c member)
  have noColon : ∀ c ∈ a.username.toList, decide (c ≠ ':') = true :=
    fun c member => decide_eq_true (name c member).2
  have ownName : userinfo a.username.toList = a.username := Percent.encode_of_text legible.username
  have ownWord : userinfo a.password.toList = a.password := Percent.encode_of_text legible.password
  have colon : inside ':' = true := rfl
  unfold Authority.credentials
  split
  · rename_i none
    rw [none.1, none.2]
    exact credentials_none within
  · rename_i some
    split
    · rename_i noWord
      have filled : a.username.toList ≠ [] := fun none =>
        some ⟨String.toList_inj.mp (by simpa using none), noWord⟩
      have spelled : (a.username ++ "@").toList ++ (cs ++ '/' :: rest) =
          a.username.toList ++ '@' :: (cs ++ '/' :: rest) := by simp
      rw [spelled, credentials_some filled (fun c member => (name c member).1) within,
        List.takeWhile_eq_self_iff.mpr noColon, List.dropWhile_eq_nil_iff.mpr noColon, ownName,
        noWord]
      rfl
    · have spelled : (a.username ++ ":" ++ a.password ++ "@").toList ++ (cs ++ '/' :: rest) =
          (a.username.toList ++ ':' :: a.password.toList) ++ '@' :: (cs ++ '/' :: rest) := by simp
      have within' : ∀ c ∈ a.username.toList ++ ':' :: a.password.toList, inside c = true := by
        simp only [List.mem_append, List.mem_cons]
        rintro c (first | rfl | last)
        · exact (name c first).1
        · exact colon
        · exact (word c last).1
      have before : (a.username.toList ++ ':' :: a.password.toList).takeWhile
          (fun c => decide (c ≠ ':')) = a.username.toList := by
        rw [List.takeWhile_append_of_pos noColon]
        simp
      have after : ((a.username.toList ++ ':' :: a.password.toList).dropWhile
          (fun c => decide (c ≠ ':'))).drop 1 = a.password.toList := by
        rw [List.dropWhile_append_of_pos noColon]
        simp
      rw [spelled, credentials_some (by simp) within' within, before, after, ownName, ownWord]

def FollowsHost (cs : List Char) : Prop := cs = [] ∨ ∃ digits, cs = ':' :: digits

theorem splitHost_of_follows {tail : List Char} (ends : FollowsHost tail) :
    splitHost false tail = ([], tail) := by
  obtain rfl | ⟨digits, rfl⟩ := ends <;> rfl

theorem splitHost_spelled {cs tail : List Char} (spelled : Host.Spelled cs)
    (ends : FollowsHost tail) : splitHost false (cs ++ tail) = (cs, tail) := by
  cases spelled with
  | name some plain =>
    clear some
    induction cs with
    | nil => exact splitHost_of_follows ends
    | cons c cs ih =>
      obtain ⟨-, colon, opened, closed⟩ := inside_of_isForbidden (plain c List.mem_cons_self)
      have later := ih fun d member => plain d (List.mem_cons_of_mem c member)
      simp [splitHost, colon, opened, closed, later]
  | @bracketed cs digits =>
    have within : splitHost true (cs ++ ']' :: tail) = (cs ++ [']'], tail) := by
      induction cs with
      | nil => simp [splitHost, splitHost_of_follows ends]
      | cons c cs ih =>
        have closed := (inside_of_bracketed (digits c List.mem_cons_self)).2
        have later := ih fun d member => digits d (List.mem_cons_of_mem c member)
        simp [splitHost, closed, later]
    simp [splitHost, within]

theorem inside_of_spelled {cs : List Char} (spelled : Host.Spelled cs) :
    ∀ c ∈ cs, inside c = true := by
  cases spelled with
  | name _ plain => exact fun c member => (inside_of_isForbidden (plain c member)).1
  | bracketed digits =>
    simp only [List.mem_cons, List.mem_append, List.not_mem_nil, or_false]
    rintro c (rfl | within | rfl)
    · rfl
    · exact (inside_of_bracketed (digits c within)).1
    · rfl

theorem ne_nil_of_spelled {cs : List Char} (spelled : Host.Spelled cs) : cs ≠ [] := by
  cases spelled with
  | name some _ => exact some
  | bracketed _ => exact List.cons_ne_nil _ _

theorem port_text {scheme : String} {n : Nat} (small : n ≤ 65535)
    (other : defaultPort? scheme ≠ some n) :
    port scheme ((toString n).toList ++ '/' :: rest) = .ok (some n, '/' :: rest) := by
  have digits : ∀ c ∈ Nat.toDigits 10 n, c.isDigit = true :=
    fun c member => Nat.isDigit_of_mem_toDigits (by decide) (by decide) member
  have slash : Char.isDigit '/' = false := rfl
  have ends : endsAuthority true '/' = true := rfl
  have filled : (Nat.toDigits 10 n).isEmpty = false := by
    simp
  have value : (Nat.toDigits 10 n).foldl (fun n c => n * 10 + (c.toNat - 48)) 0 = n := by
    have read : (Nat.toDigits 10 n).foldl (fun n c => 10 * n + (c.toNat - 48)) 0 = n :=
      Nat.ofDigitChars_ten_toDigits
    simpa only [Nat.mul_comm] using read
  have taken : (Nat.toDigits 10 n ++ '/' :: rest).takeWhile Char.isDigit = Nat.toDigits 10 n := by
    rw [List.takeWhile_append_of_pos digits]
    simp [slash]
  have left : (Nat.toDigits 10 n ++ '/' :: rest).dropWhile Char.isDigit = '/' :: rest := by
    rw [List.dropWhile_append_of_pos digits]
    simp [slash]
  rw [Nat.toString_eq_repr, Nat.toList_repr]
  simp [port, taken, left, value, Nat.not_lt.mpr small, ends, port.value, filled, other]

def portText : Option Nat → String
  | some n => s!":{n}"
  | none => ""

theorem Authority.text_eq (a : Authority) :
    a.text = "//" ++ a.credentials ++ a.host.text ++ portText a.port := by
  unfold Authority.text portText
  cases a.port <;> rfl

theorem followsHost_portText (port : Option Nat) : FollowsHost (portText port).toList := by
  cases port with
  | none => exact .inl rfl
  | some n =>
    have text : portText (some n) = ":" ++ toString n := rfl
    exact .inr ⟨(toString n).toList, by rw [text]; simp⟩

theorem inside_portText (port : Option Nat) : ∀ c ∈ (portText port).toList, inside c = true := by
  cases port with
  | none => simp [portText]
  | some n =>
    have text : portText (some n) = ":" ++ toString n := rfl
    have digits : ∀ c ∈ (toString n).toList, inside c = true := by
      intro c member
      rw [Nat.toString_eq_repr, Nat.toList_repr] at member
      have digit := Nat.isDigit_of_mem_toDigits (by decide) (by decide) member
      exact (inside_of_isForbidden (isForbidden_of_isDigit digit)).1
    have colon : inside ':' = true := rfl
    rw [text]
    simpa [colon] using digits

/-- An authority is read back from its text, with the host that this of its own is read as. -/
theorem authority_text {scheme : String} (web : scheme = "http" ∨ scheme = "https")
    {a : Authority} (legible : a.Legible scheme) :
    Reader.authority scheme ((a.credentials ++ a.host.text ++ portText a.port).toList ++
      '/' :: rest) =
      (specialHost a.host.text.toList).map fun host => ({ a with host }, '/' :: rest) := by
  have special := isSpecial_of_web web
  have within : ∀ c ∈ a.host.text.toList ++ (portText a.port).toList, inside c = true := by
    simp only [List.forall_mem_append]
    exact ⟨inside_of_spelled legible.host, inside_portText a.port⟩
  have spelled : (a.credentials ++ a.host.text ++ portText a.port).toList ++ '/' :: rest =
      a.credentials.toList ++ ((a.host.text.toList ++ (portText a.port).toList) ++ '/' :: rest) := by
    simp
  have split := splitHost_spelled legible.host (followsHost_portText a.port)
  have filled : a.host.text.toList.isEmpty = false := by
    simpa using ne_nil_of_spelled legible.host
  obtain ⟨taken, left⟩ := @span_inside rest _ within
  simp only [Reader.authority, special, spelled, credentials_text legible within, bind,
    Except.bind, taken, left, split, filled, Bool.and_false, Bool.false_eq_true, if_false, if_true]
  cases read : specialHost a.host.text.toList with
  | error e => rfl
  | ok host =>
    have named : (host == .domain "") = false := by
      refine Bool.eq_false_iff.mpr fun same => ?_
      have some := ne_nil_of_spelled (spelled_of_specialHost read)
      rw [beq_iff_eq.mp same] at some
      exact some rfl
    obtain ⟨username, password, host', port⟩ := a
    simp only [named, Bool.false_eq_true, if_false, Bool.false_and]
    cases port with
    | none => rfl
    | some n =>
      obtain ⟨small, other⟩ := legible.port n rfl
      have text : (portText (some n)).toList = ':' :: (toString n).toList := by
        have colon : portText (some n) = ":" ++ toString n := rfl
        rw [colon]
        simp
      simp only [text, port_text small other]
      rfl

end Authority

section Paths

def pathChars (names : List String) : List Char := names.flatMap fun s => '/' :: s.toList

theorem toList_text_segments (names : List String) :
    (Path.segments names).text.toList = pathChars names := by
  rw [Path.text, pathChars]
  induction names with
  | nil => rfl
  | cons s names ih =>
    rw [List.map_cons, String.join_cons, String.toList_append, ih]
    simp

theorem splitOn_append {sep : Char → Bool} {cs : List Char} (free : ∀ c ∈ cs, sep c = false)
    {mark : Char} (isMark : sep mark = true) (rest : List Char) :
    splitOn sep (cs ++ mark :: rest) = cs :: splitOn sep rest := by
  induction cs with
  | nil => simp [splitOn, isMark]
  | cons c cs ih =>
    have own := free c List.mem_cons_self
    simp [splitOn, own, ih fun d member => free d (List.mem_cons_of_mem c member)]

theorem splitOn_free {sep : Char → Bool} {cs : List Char} (free : ∀ c ∈ cs, sep c = false) :
    splitOn sep cs = [cs] := by
  induction cs with
  | nil => rfl
  | cons c cs ih =>
    have own := free c List.mem_cons_self
    simp [splitOn, own, ih fun d member => free d (List.mem_cons_of_mem c member)]

theorem splitOn_pathChars {cs : List Char} (free : ∀ c ∈ cs, isSlash true c = false)
    {names : List String} (each : ∀ s ∈ names, ∀ c ∈ s.toList, isSlash true c = false) :
    splitOn (isSlash true) (cs ++ pathChars names) = cs :: names.map String.toList := by
  induction names generalizing cs with
  | nil =>
    rw [pathChars, List.flatMap_nil, List.append_nil]
    exact splitOn_free free
  | cons s names ih =>
    have first := each s List.mem_cons_self
    have later := ih first fun t member => each t (List.mem_cons_of_mem s member)
    rw [pathChars, List.flatMap_cons, List.cons_append, splitOn_append free rfl]
    exact congrArg (cs :: ·) later

theorem resolve_segments {names : List String} (each : ∀ s ∈ names, IsSegment s.toList)
    (done : List String) :
    resolve false done (names.map String.toList) = names.reverse ++ done := by
  have own {s : String} (segment : IsSegment s.toList) (done : List String) :
      Reader.segment false done s.toList = s :=
    Percent.encode_of_text fun c member => (segment.safe c member).1
  induction names generalizing done with
  | nil => rfl
  | cons s names ih =>
    have first := each s List.mem_cons_self
    cases names with
    | nil => simp [resolve, first.noDot, first.noDoubleDot, own first]
    | cons t names =>
      have later := ih (fun u member => each u (List.mem_cons_of_mem s member)) (s :: done)
      rw [List.map_cons, List.map_cons, resolve, if_neg (by simp [first.noDoubleDot]),
        if_neg (by simp [first.noDot]), own first, ← List.map_cons, later]
      · simp
      · simp

theorem pathAfterAuthority_pathChars {scheme : String} (web : scheme = "http" ∨ scheme = "https")
    {names : List String} (some : names ≠ []) (each : ∀ s ∈ names, IsSegment s.toList) :
    pathAfterAuthority scheme (pathChars names) = .segments names := by
  have special := isSpecial_of_web web
  have noFile : (scheme == "file") = false := by simpa using ne_file_of_web web
  have slash : isSlash true '/' = true := rfl
  cases names with
  | nil => exact absurd rfl some
  | cons s names =>
    have free (t : String) (member : t ∈ s :: names) (c : Char) (inner : c ∈ t.toList) :
        isSlash true c = false :=
      ((each t member).safe c inner).2
    have spelled : pathChars (s :: names) = '/' :: (s.toList ++ pathChars names) := by
      simp [pathChars]
    have split := splitOn_pathChars (free s List.mem_cons_self)
      fun t member => free t (List.mem_cons_of_mem s member)
    rw [spelled, pathAfterAuthority]
    simp only [special, slash, if_true, segments, allSegments, noFile, Bool.false_eq_true, if_false,
      split]
    rw [← List.map_cons, resolve_segments each, List.append_nil, List.reverse_reverse]

end Paths

def markedChars (mark : Char) : Option String → List Char
  | some text => mark :: text.toList
  | none => []

theorem toList_marked (mark : Char) (text : Option String) :
    (marked (String.ofList [mark]) text).toList = markedChars mark text := by
  cases text with
  | none => rfl
  | some text => simp [marked, markedChars]

theorem span_markedChars {mark : Char} {cs : List Char} (before : ∀ c ∈ cs, c ≠ mark)
    (text : Option String) :
    (cs ++ markedChars mark text).takeWhile (fun c => decide (c ≠ mark)) = cs ∧
      (cs ++ markedChars mark text).dropWhile (fun c => decide (c ≠ mark)) =
        markedChars mark text := by
  have each : ∀ c ∈ cs, decide (c ≠ mark) = true := fun c member => decide_eq_true (before c member)
  rw [List.takeWhile_append_of_pos each, List.dropWhile_append_of_pos each]
  cases text <;> simp [markedChars]

theorem tail_markedChars {scheme : String} (special : isSpecial scheme = true) {cs : List Char}
    (path : ∀ c ∈ cs, c ≠ '#' ∧ c ≠ '?') {query fragment : Option String}
    (inQuery : ∀ q, query = some q → ∀ c ∈ q.toList, Percent.inSpecialQuery c = false)
    (inFragment : ∀ f, fragment = some f → ∀ c ∈ f.toList, Percent.inFragment c = false) :
    tail scheme (cs ++ markedChars '?' query ++ markedChars '#' fragment) =
      (cs, query, fragment) := by
  have noHash : ∀ c ∈ cs ++ markedChars '?' query, c ≠ '#' := by
    rw [List.forall_mem_append]
    refine ⟨fun c member => (path c member).1, ?_⟩
    cases query with
    | none => simp [markedChars]
    | some q =>
      rw [markedChars, List.forall_mem_cons]
      exact ⟨by decide, fun c member => (of_inSpecialQuery (inQuery q rfl c member)).2⟩
  obtain ⟨main, after⟩ := span_markedChars noHash fragment
  obtain ⟨main', after'⟩ := span_markedChars (fun c member => (path c member).2) query
  simp only [tail, main, after, main', after', special, if_true, Prod.mk.injEq, true_and]
  constructor
  · cases query with
    | none => rfl
    | some q => exact congrArg some (Percent.encode_of_text (inQuery q rfl))
  · cases fragment with
    | none => rfl
    | some f => exact congrArg some (Percent.encode_of_text (inFragment f rfl))

theorem scheme?_of_web {scheme : String} (web : scheme = "http" ∨ scheme = "https")
    (rest : List Char) : scheme? (scheme.toList ++ ':' :: rest) = some (scheme, rest) := by
  obtain rfl | rfl := web
  · have spelled : "http".toList ++ ':' :: rest = 'h' :: 't' :: 't' :: 'p' :: ':' :: rest := by simp
    rw [spelled]
    rfl
  · have spelled : "https".toList ++ ':' :: rest = 'h' :: 't' :: 't' :: 'p' :: 's' :: ':' :: rest := by
      simp
    rw [spelled]
    rfl

theorem large_of_web {scheme : String} (web : scheme = "http" ∨ scheme = "https") :
    ∀ c ∈ scheme.toList, 0x20 < c.toNat := by
  obtain rfl | rfl := web <;> simp

def authorityChars (a : Authority) : List Char :=
  (a.credentials ++ a.host.text ++ portText a.port).toList

theorem of_mem_authorityChars {scheme : String} {a : Authority} (legible : a.Legible scheme) :
    ∀ c ∈ authorityChars a, 0x20 < c.toNat ∧ endsAuthority true c = false := by
  have within {c : Char} (h : inside c = true) : 0x20 < c.toNat ∧ endsAuthority true c = false :=
    ⟨((inside_iff c).mp h).1, ((inside_iff c).mp h).2.1⟩
  have name : ∀ c ∈ a.username.toList, 0x20 < c.toNat ∧ endsAuthority true c = false :=
    fun c member => within (inside_of_inUserinfo (legible.username c member)).1
  have word : ∀ c ∈ a.password.toList, 0x20 < c.toNat ∧ endsAuthority true c = false :=
    fun c member => within (inside_of_inUserinfo (legible.password c member)).1
  have at' : ∀ c ∈ "@".toList, 0x20 < c.toNat ∧ endsAuthority true c = false := by
    intro c member
    obtain rfl : c = '@' := by simpa using member
    decide
  have colon : ∀ c ∈ ":".toList, 0x20 < c.toNat ∧ endsAuthority true c = false := by
    intro c member
    obtain rfl : c = ':' := by simpa using member
    decide
  have credentials : ∀ c ∈ a.credentials.toList, 0x20 < c.toNat ∧ endsAuthority true c = false := by
    unfold Authority.credentials
    split
    · simp
    · split
      · simp only [String.toList_append, List.forall_mem_append]
        exact ⟨name, at'⟩
      · simp only [String.toList_append, List.forall_mem_append]
        exact ⟨⟨⟨name, colon⟩, word⟩, at'⟩
  simp only [authorityChars, String.toList_append, List.forall_mem_append]
  exact ⟨⟨credentials, fun c member => within (inside_of_spelled legible.host c member)⟩,
    fun c member => within (inside_portText a.port c member)⟩

theorem authorityChars_ne_nil {scheme : String} {a : Authority} (legible : a.Legible scheme) :
    authorityChars a ≠ [] := by
  have filled := ne_nil_of_spelled legible.host
  simp only [authorityChars, String.toList_append]
  simp only [ne_eq, List.append_eq_nil_iff, not_and]
  exact fun none => absurd none.2 filled

theorem of_mem_pathChars {names : List String} (each : ∀ s ∈ names, IsSegment s.toList) :
    ∀ c ∈ pathChars names, 0x20 < c.toNat ∧ c ≠ '#' ∧ c ≠ '?' := by
  intro c member
  obtain ⟨s, inside, found⟩ := List.mem_flatMap.mp member
  obtain rfl | inner := List.mem_cons.mp found
  · decide
  · exact of_inPath ((each s inside).safe c inner).1

theorem large_of_markedChars {mark : Char} (large : 0x20 < mark.toNat) {text : Option String}
    (each : ∀ t, text = some t → ∀ c ∈ t.toList, 0x20 < c.toNat) :
    ∀ c ∈ markedChars mark text, 0x20 < c.toNat := by
  cases text with
  | none => simp [markedChars]
  | some t => exact List.forall_mem_cons.mpr ⟨large, each t rfl⟩

theorem toList_text {scheme : String} {a : Authority} {names : List String}
    {query fragment : Option String} :
    (Url.text ⟨scheme, some a, .segments names, query, fragment⟩).toList =
      scheme.toList ++ ':' :: ('/' :: '/' :: (authorityChars a ++ pathChars names) ++
        markedChars '?' query ++ markedChars '#' fragment) := by
  have question : (marked "?" query).toList = markedChars '?' query := toList_marked '?' query
  have hash : (marked "#" fragment).toList = markedChars '#' fragment := toList_marked '#' fragment
  have slashes : "//".toList = ['/', '/'] := by simp
  have colon : ":".toList = [':'] := by simp
  simp only [Url.text, origin, Authority.text_eq, String.toList_append, toList_text_segments,
    question, hash, slashes, colon, authorityChars]
  simp

theorem parse_text {u : Url} (legible : u.Legible) {a : Authority} (served : u.authority = some a) :
    Url.parse u.text = (specialHost a.host.text.toList).map fun host =>
      { u with authority := some { a with host } } := by
  obtain ⟨scheme, authority, path, query, fragment⟩ := u
  obtain rfl : authority = some a := served
  obtain ⟨web, ⟨_, ⟨⟩, readable⟩, ⟨names, rfl, filled, each⟩, inQuery, inFragment⟩ := legible
  simp only at web readable inQuery inFragment
  have special := isSpecial_of_web web
  have served := of_mem_authorityChars readable
  have placed := of_mem_pathChars each
  have whole : ∀ c ∈ (Url.text ⟨scheme, some a, .segments names, query, fragment⟩).toList,
      0x20 < c.toNat := by
    rw [toList_text]
    simp only [List.forall_mem_append, List.forall_mem_cons]
    exact ⟨large_of_web web, by decide, ⟨⟨by decide, by decide, fun c member => (served c member).1,
        fun c member => (placed c member).1⟩,
      large_of_markedChars (by decide) fun q same c member =>
        (of_inSpecialQuery (inQuery q same c member)).1⟩,
      large_of_markedChars (by decide) fun f same c member => of_inFragment (inFragment f same c member)⟩
  have main : ∀ c ∈ '/' :: '/' :: (authorityChars a ++ pathChars names), c ≠ '#' ∧ c ≠ '?' := by
    simp only [List.forall_mem_append, List.forall_mem_cons]
    refine ⟨by decide, by decide, fun c member => ?_, fun c member => (placed c member).2⟩
    have open' := (served c member).2
    simp only [endsAuthority, Bool.or_eq_false_iff, beq_eq_false_iff_ne] at open'
    exact ⟨open'.2, open'.1.2⟩
  have slashes : ('/' :: '/' :: (authorityChars a ++ pathChars names)).dropWhile (isSlash true) =
      authorityChars a ++ pathChars names := by
    have slash : isSlash true '/' = true := rfl
    cases spelled : authorityChars a with
    | nil => exact absurd spelled (authorityChars_ne_nil readable)
    | cons c cs =>
      have open' := (served c (by simp [spelled])).2
      simp only [endsAuthority, Bool.or_eq_false_iff] at open'
      simp [slash, open'.1.1]
  have below : ∃ rest, pathChars names = '/' :: rest := by
    cases names with
    | nil => exact absurd rfl filled
    | cons s names => exact ⟨_, by rw [pathChars, List.flatMap_cons, List.cons_append]⟩
  obtain ⟨rest, rooted⟩ := below
  have authorized := @authority_text rest _ web _ readable
  rw [← rooted] at authorized
  have path := pathAfterAuthority_pathChars web filled each
  rw [Url.parse, clean_of_large whole, toList_text, scheme?_of_web web]
  simp only [tail_markedChars special main inQuery inFragment, afterScheme,
    if_neg (ne_file_of_web web), special, if_true, slashes, bind, Except.bind]
  rw [authorityChars, authorized]
  cases specialHost a.host.text.toList with
  | error e => rfl
  | ok host =>
    simp only [Except.map, path]
    rfl

end Playground.Url
