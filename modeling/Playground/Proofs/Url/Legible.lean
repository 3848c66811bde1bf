import Playground.Proofs.Text.Hex
import Playground.Proofs.Url.PagePath
import Playground.Proofs.Url.Percent

/-!
URLs whose parts can be told apart in their text. In each part stand only characters that end none
of the parts before it, and no segment of a path is a dot segment. Main statement: every URL of the
web that is read is one.
-/

namespace Playground.Url

open Reader

/-- The text of a host: a name, or an address between brackets. -/
inductive Host.Spelled : List Char → Prop
  | name {cs : List Char} (some : cs ≠ []) (plain : ∀ c ∈ cs, Domain.isForbidden c = false) :
      Spelled cs
  | bracketed {cs : List Char} (digits : ∀ c ∈ cs, Text.Hex.isDigit c = true ∨ c = ':') :
      Spelled ('[' :: (cs ++ [']']))

structure Authority.Legible (scheme : String) (a : Authority) : Prop where
  username : ∀ c ∈ a.username.toList, Percent.inUserinfo c = false
  password : ∀ c ∈ a.password.toList, Percent.inUserinfo c = false
  host : Host.Spelled a.host.text.toList
  port : ∀ n, a.port = some n → n ≤ 65535 ∧ defaultPort? scheme ≠ some n

structure IsSegment (cs : List Char) : Prop where
  safe : ∀ c ∈ cs, Percent.inPath c = false ∧ isSlash true c = false
  noDot : isDot cs = false
  noDoubleDot : isDoubleDot cs = false

structure Legible (u : Url) : Prop where
  web : u.scheme = "http" ∨ u.scheme = "https"
  authority : ∃ a, u.authority = some a ∧ a.Legible u.scheme
  path : ∃ names, u.path = .segments names ∧ names ≠ [] ∧ ∀ s ∈ names, IsSegment s.toList
  query : ∀ q, u.query = some q → ∀ c ∈ q.toList, Percent.inSpecialQuery c = false
  fragment : ∀ f, u.fragment = some f → ∀ c ∈ f.toList, Percent.inFragment c = false

section Web

variable {scheme : String} (web : scheme = "http" ∨ scheme = "https")
include web

theorem isSpecial_of_web : isSpecial scheme = true := by
  obtain rfl | rfl := web <;> decide

theorem ne_file_of_web : scheme ≠ "file" := by
  obtain rfl | rfl := web <;> decide

end Web

section Segments

theorem isSegment_nil : IsSegment [] := ⟨by simp, rfl, rfl⟩

theorem dotDigits_of_map_toLower {word before after : List Char} {high low : Char}
    (dots : ∀ n < word.length, word[n]? = some '%' →
      word[n + 1]? = some '2' ∧ word[n + 2]? = some 'e')
    (spelled : (before ++ '%' :: high :: low :: after).map Char.toLower = word) :
    Percent.dotDigits high low = true := by
  have mark : Char.toLower '%' = '%' := rfl
  rw [List.map_append, List.map_cons, List.map_cons, List.map_cons, mark] at spelled
  have inside : before.length < word.length := by
    rw [← spelled]
    simp
  obtain ⟨first, second⟩ := dots before.length inside (by simp [← spelled])
  have high' : high.toLower = '2' := by
    rw [← spelled, List.getElem?_append_right (by simp)] at first
    simpa using first
  have low' : low.toLower = 'e' := by
    rw [← spelled, List.getElem?_append_right (by simp)] at second
    simpa using second
  rw [Percent.dotDigits, high', low']
  rfl

theorem dotDigits_of_isDot {before after : List Char} {high low : Char}
    (dot : isDot (before ++ '%' :: high :: low :: after) = true ∨
      isDoubleDot (before ++ '%' :: high :: low :: after) = true) :
    Percent.dotDigits high low = true := by
  generalize spelled : before ++ '%' :: high :: low :: after = segment at dot
  have lower := congrArg (List.map Char.toLower) spelled
  simp only [isDot, isDoubleDot, Bool.or_eq_true, beq_iff_eq] at dot
  obtain (rfl | word) | ((word | word) | word) | word := dot
  · exact dotDigits_of_map_toLower (by decide) lower
  all_goals exact dotDigits_of_map_toLower (by decide) (lower.trans word)

theorem sep_of_mem_splitOn {sep : Char → Bool} {cs part : List Char} (member : part ∈ splitOn sep cs) :
    ∀ c ∈ part, sep c = false := by
  induction cs generalizing part with
  | nil =>
    obtain rfl := List.mem_singleton.mp member
    simp
  | cons c cs ih =>
    rw [splitOn] at member
    split at member
    · obtain rfl | later := List.mem_cons.mp member
      · simp
      · exact ih later
    · rename_i plain
      have own : sep c = false := by simpa using plain
      cases parts : splitOn sep cs with
      | nil =>
        simp only [parts, List.mem_singleton] at member
        subst member
        simpa using own
      | cons first rest =>
        simp only [parts, List.mem_cons] at member
        obtain rfl | later := member
        · intro d inside
          obtain rfl | inside := List.mem_cons.mp inside
          · exact own
          · exact ih (parts ▸ List.mem_cons_self) d inside
        · exact ih (parts ▸ List.mem_cons_of_mem _ later)

theorem splitOn_ne_nil (sep : Char → Bool) (cs : List Char) : splitOn sep cs ≠ [] := by
  cases cs with
  | nil => simp [splitOn]
  | cons c cs =>
    rw [splitOn]
    split
    · simp
    · split <;> simp

theorem of_mem_mapM {α β : Type} {f : α → Option β} {xs : List α} {ys : List β}
    (mapped : xs.mapM f = some ys) {y : β} (member : y ∈ ys) : ∃ x ∈ xs, f x = some y := by
  induction xs generalizing ys with
  | nil =>
    cases mapped
    cases member
  | cons x xs ih =>
    rw [List.mapM_cons] at mapped
    obtain ⟨z, own, mapped⟩ := Option.bind_eq_some_iff.mp mapped
    obtain ⟨zs, rest, mapped⟩ := Option.bind_eq_some_iff.mp mapped
    cases mapped
    obtain rfl | later := List.mem_cons.mp member
    · exact ⟨x, List.mem_cons_self, own⟩
    · obtain ⟨x', inside, found⟩ := ih rest later
      exact ⟨x', List.mem_cons_of_mem x inside, found⟩

theorem isSegment_encode {cs : List Char} (free : ∀ c ∈ cs, isSlash true c = false)
    (noDot : isDot cs = false) (noDoubleDot : isDoubleDot cs = false) :
    IsSegment (Percent.encode Percent.inPath cs).toList := by
  have noSlash : ∀ n < 16, isSlash true (Text.Hex.upperDigit n) = false := by decide
  have dots : isDot (Percent.encode Percent.inPath cs).toList = false ∧
      isDoubleDot (Percent.encode Percent.inPath cs).toList = false := by
    by_cases safe : ∀ c ∈ cs, Percent.inPath c = false
    · rw [Percent.encode_of_forall safe, String.toList_ofList]
      exact ⟨noDot, noDoubleDot⟩
    · obtain ⟨c, member, encoded⟩ : ∃ c ∈ cs, Percent.inPath c = true := by
        simpa using safe
      obtain ⟨before, high, low, after, spelled, digits⟩ :=
        Percent.exists_escape (by decide) member encoded
      rw [spelled]
      constructor
      · refine Bool.eq_false_iff.mpr fun dot => ?_
        rw [dotDigits_of_isDot (.inl dot)] at digits
        cases digits
      · refine Bool.eq_false_iff.mpr fun dot => ?_
        rw [dotDigits_of_isDot (.inr dot)] at digits
        cases digits
  refine ⟨fun c member => ⟨Percent.of_mem_encode Percent.writable_inPath member, ?_⟩, dots.1, dots.2⟩
  obtain ⟨inside, -⟩ | rfl | ⟨n, small, rfl⟩ := Percent.mem_encode_cases member
  · exact free c inside
  · rfl
  · exact noSlash n small

theorem isSegment_resolve {parts : List (List Char)}
    (free : ∀ part ∈ parts, ∀ c ∈ part, isSlash true c = false) {done : List String}
    (before : ∀ s ∈ done, IsSegment s.toList) :
    ∀ s ∈ resolve false done parts, IsSegment s.toList := by
  have shorter {done : List String} (before : ∀ s ∈ done, IsSegment s.toList) :
      ∀ s ∈ shorten done, IsSegment s.toList := by
    cases done with
    | nil => exact before
    | cons last rest =>
      rw [shorten]
      split
      · exact before
      · exact fun s member => before s (List.mem_cons_of_mem last member)
  have encoded {part : List Char} (free : ∀ c ∈ part, isSlash true c = false)
      (noDoubleDot : ¬ isDoubleDot part = true) (noDot : ¬ isDot part = true)
      (done : List String) : IsSegment (segment false done part).toList := by
    have plain : segment false done part = Percent.encode Percent.inPath part := rfl
    rw [plain]
    exact isSegment_encode free (by simpa using noDot) (by simpa using noDoubleDot)
  have none : IsSegment "".toList := isSegment_nil
  fun_induction resolve false done parts with
  | case1 done => exact before
  | case2 done last double =>
    exact List.forall_mem_cons.mpr ⟨none, shorter before⟩
  | case3 done last noDoubleDot dot =>
    exact List.forall_mem_cons.mpr ⟨none, before⟩
  | case4 done last noDoubleDot noDot =>
    exact List.forall_mem_cons.mpr
      ⟨encoded (free last List.mem_cons_self) noDoubleDot noDot done, before⟩
  | case5 done s rest more double ih =>
    exact ih (fun part member => free part (List.mem_cons_of_mem s member)) (shorter before)
  | case6 done s rest more noDoubleDot dot ih =>
    exact ih (fun part member => free part (List.mem_cons_of_mem s member)) before
  | case7 done s rest more noDoubleDot noDot ih =>
    exact ih (fun part member => free part (List.mem_cons_of_mem s member))
      (List.forall_mem_cons.mpr
        ⟨encoded (free s List.mem_cons_self) noDoubleDot noDot done, before⟩)

end Segments

theorem resolve_ne_nil {parts : List (List Char)} (some : parts ≠ []) (done : List String) :
    resolve false done parts ≠ [] := by
  fun_induction resolve false done parts with
  | case1 done => exact absurd rfl some
  | case2 done last double => exact List.cons_ne_nil _ _
  | case3 done last noDoubleDot dot => exact List.cons_ne_nil _ _
  | case4 done last noDoubleDot noDot => exact List.cons_ne_nil _ _
  | case5 done s rest more double ih => exact ih (by simpa using more)
  | case6 done s rest more noDoubleDot dot ih => exact ih (by simpa using more)
  | case7 done s rest more noDoubleDot noDot ih => exact ih (by simpa using more)

theorem path_of_web {scheme : String} (web : scheme = "http" ∨ scheme = "https") (cs : List Char) :
    ∃ names, pathAfterAuthority scheme cs = .segments names ∧ names ≠ [] ∧
      ∀ s ∈ names, IsSegment s.toList := by
  have special := isSpecial_of_web web
  have noFile : (scheme == "file") = false := by simpa using ne_file_of_web web
  have each (cs : List Char) : segments scheme [] cs ≠ [] ∧
      ∀ s ∈ segments scheme [] cs, IsSegment s.toList := by
    simp only [segments, allSegments, noFile, special, Bool.false_eq_true, if_false]
    constructor
    · simpa using resolve_ne_nil (splitOn_ne_nil (isSlash true) cs) []
    · intro s member
      refine isSegment_resolve (fun part inside => sep_of_mem_splitOn inside) ?_ s
        (List.mem_reverse.mp member)
      simp
  cases cs with
  | nil => exact ⟨_, by simp only [pathAfterAuthority, special, if_true], each []⟩
  | cons c rest => exact ⟨_, rfl, each _⟩

theorem inUserinfo_userinfo (cs : List Char) :
    ∀ c ∈ (userinfo cs).toList, Percent.inUserinfo c = false :=
  fun _ member => Percent.of_mem_encode Percent.writable_inUserinfo member

theorem inUserinfo_credentials {special : Bool} {cs rest : List Char} {username password : String}
    (read : credentials special cs = .ok (username, password, rest)) :
    (∀ c ∈ username.toList, Percent.inUserinfo c = false) ∧
      ∀ c ∈ password.toList, Percent.inUserinfo c = false := by
  have none : ∀ c ∈ "".toList, Percent.inUserinfo c = false := by simp
  simp only [credentials] at read
  split at read
  · cases read
    exact ⟨none, none⟩
  · split at read
    · split at read
      · split at read
        · cases read
        · cases read
          exact ⟨none, none⟩
      · cases read
        exact ⟨none, none⟩
    · cases read
      exact ⟨inUserinfo_userinfo _, inUserinfo_userinfo _⟩

theorem of_port {scheme : String} {cs rest : List Char} {n : Nat}
    (read : port scheme cs = .ok (some n, rest)) :
    n ≤ 65535 ∧ defaultPort? scheme ≠ some n := by
  have value {digits : List Char} {m : Nat} (small : ¬ 65535 < m)
      (read : port.value scheme digits m = some n) : n ≤ 65535 ∧ defaultPort? scheme ≠ some n := by
    unfold port.value at read
    split at read
    · cases read
    · rename_i other
      cases read
      simp only [Bool.or_eq_true, decide_eq_true_eq, not_or] at other
      exact ⟨by omega, other.2⟩
  simp only [port] at read
  split at read
  · cases read
  · rename_i small
    split at read
    · split at read
      · simp only [Except.ok.injEq, Prod.mk.injEq] at read
        exact value small read.1
      · cases read
    · simp only [Except.ok.injEq, Prod.mk.injEq] at read
      exact value small read.1

theorem of_mem_colons {pieces : List Nat} {c : Char} (member : c ∈ (Ipv6.colons pieces).toList) :
    Text.Hex.isDigit c = true ∨ c = ':' := by
  rw [Ipv6.colons, String.toList_intercalate, List.map_map] at member
  induction pieces with
  | nil => simp at member
  | cons piece rest ih =>
    cases rest with
    | nil =>
      simp only [List.map_cons, List.map_nil, List.intercalate_singleton, Function.comp,
        Ipv6.hexText, String.toList_ofList] at member
      exact .inl (Text.Hex.isDigit_of_mem_ofNat member)
    | cons next rest =>
      rw [List.map_cons, List.map_cons, List.intercalate_cons_cons, List.mem_append,
        List.mem_append] at member
      obtain (first | mark) | later := member
      · simp only [Function.comp, Ipv6.hexText, String.toList_ofList] at first
        exact .inl (Text.Hex.isDigit_of_mem_ofNat first)
      · exact .inr (by simpa using mark)
      · exact ih later

theorem spelled_ipv6 (pieces : List Nat) : Host.Spelled (Ipv6.text pieces).toList := by
  have spelled {inner : String} (digits : ∀ c ∈ inner.toList, Text.Hex.isDigit c = true ∨ c = ':') :
      Host.Spelled ("[" ++ inner ++ "]").toList := by
    have text : ("[" ++ inner ++ "]").toList = '[' :: (inner.toList ++ [']']) := by simp
    rw [text]
    exact .bracketed digits
  unfold Ipv6.text
  split
  · exact spelled fun c member => of_mem_colons member
  · rename_i start length _
    have assoc (a b : String) : "[" ++ a ++ "::" ++ b ++ "]" = "[" ++ (a ++ "::" ++ b) ++ "]" := by
      simp only [String.append_assoc]
    have text : s!"[{Ipv6.colons (pieces.take start)}::{Ipv6.colons (pieces.drop (start + length))}]" =
        "[" ++ (Ipv6.colons (pieces.take start) ++ "::" ++
          Ipv6.colons (pieces.drop (start + length))) ++ "]" := assoc _ _
    rw [text]
    refine spelled fun c member => ?_
    simp only [String.toList_append, List.mem_append] at member
    obtain (first | marks) | last := member
    · exact of_mem_colons first
    · exact .inr (by simpa using marks)
    · exact of_mem_colons last

theorem isForbidden_of_isDigit {c : Char} (digit : c.isDigit = true) :
    Domain.isForbidden c = false := by
  have all : ∀ n < 58, (Char.ofNat n).isDigit = true → Domain.isForbidden (Char.ofNat n) = false := by
    decide
  have small : c.toNat < 58 := by
    simp only [Char.isDigit, Bool.and_eq_true, decide_eq_true_eq, UInt32.le_iff_toNat_le] at digit
    exact Nat.lt_succ_of_le digit.2
  have own := all c.toNat small
  rw [Char.ofNat_toNat] at own
  exact own digit

theorem spelled_ipv4 (address : Nat) : Host.Spelled (Ipv4.text address).toList := by
  have digits (n : Nat) : ∀ c ∈ (toString n).toList, Domain.isForbidden c = false := by
    intro c member
    rw [Nat.toString_eq_repr, Nat.toList_repr] at member
    exact isForbidden_of_isDigit (Nat.isDigit_of_mem_toDigits (by decide) (by decide) member)
  have text : Ipv4.text address = toString (address / 16777216) ++ "." ++
      toString (address / 65536 % 256) ++ "." ++ toString (address / 256 % 256) ++ "." ++
        toString (address % 256) := rfl
  have dot : ∀ c ∈ ".".toList, Domain.isForbidden c = false := by simp; rfl
  refine .name ?_ ?_
  · rw [text]
    simp
  · rw [text]
    simp only [String.toList_append, List.forall_mem_append]
    exact ⟨⟨⟨⟨⟨⟨digits _, dot⟩, digits _⟩, dot⟩, digits _⟩, dot⟩, digits _⟩

theorem plain_of_toAscii {bytes : List UInt8} {name : List Char}
    (read : Domain.toAscii bytes = .ok name) : ∀ c ∈ name, Domain.isForbidden c = false := by
  unfold Domain.toAscii at read
  split at read
  · rename_i found
    cases read
    simp only [Domain.ascii?, Option.bind_eq_bind, Option.bind_eq_some_iff] at found
    obtain ⟨folded, -, forms, -, found⟩ := found
    split at found
    · rename_i checks
      cases found
      simp only [Bool.and_eq_true, Bool.not_eq_true', List.any_eq_false] at checks
      exact fun c member => by simpa using checks.2 c member
    · cases found
  · cases read

/-- What a text is read as where a host may stand: an address between brackets, or what its name in
ASCII is. -/
inductive ReadAs (cs : List Char) : Host → Prop where
  | ipv6 {pieces : List Nat} (bracket : cs.head? = some '[')
      (read : Ipv6.read (cs.drop 1).dropLast = .ok pieces) : ReadAs cs (.ipv6 pieces)
  | ipv4 {name : List Char} {address : Nat} (bare : cs.head? ≠ some '[')
      (named : Domain.toAscii (Percent.decodeText (String.ofList cs)) = .ok name)
      (read : Ipv4.read name = .ok address) : ReadAs cs (.ipv4 address)
  | domain {name : List Char} (bare : cs.head? ≠ some '[')
      (named : Domain.toAscii (Percent.decodeText (String.ofList cs)) = .ok name)
      (some : name ≠ []) (noNumber : Ipv4.endsInNumber name = false) :
      ReadAs cs (.domain (String.ofList name))

theorem readAs_of_specialHost {cs : List Char} {host : Host} (read : specialHost cs = .ok host) :
    ReadAs cs host := by
  unfold specialHost at read
  split at read
  case isTrue bracket =>
    unfold bracketed at read
    split at read
    · cases pieces : Ipv6.read (cs.drop 1).dropLast with
      | error e =>
        simp only [pieces, bind, Except.bind] at read
        cases read
      | ok address =>
        simp only [pieces, bind, Except.bind, pure, Except.pure, Except.ok.injEq] at read
        subst read
        exact .ipv6 bracket pieces
    · cases read
  case isFalse bare =>
    cases named : Domain.toAscii (Percent.decodeText (String.ofList cs)) with
    | error e => simp [named, bind, Except.bind] at read
    | ok name =>
      simp only [named, bind, Except.bind] at read
      split at read
      · cases read
      rename_i some
      split at read
      · cases address : Ipv4.read name with
        | error e => simp [address] at read
        | ok n =>
          simp only [address, pure, Except.pure, Except.ok.injEq] at read
          subst read
          exact .ipv4 bare named address
      · rename_i noNumber
        simp only [pure, Except.pure, Except.ok.injEq] at read
        subst read
        exact .domain bare named (by simpa using some) (by simpa using noNumber)

theorem spelled_of_specialHost {cs : List Char} {host : Host} (read : specialHost cs = .ok host) :
    Host.Spelled host.text.toList := by
  cases readAs_of_specialHost read with
  | ipv6 _ _ => exact spelled_ipv6 _
  | ipv4 _ _ _ => exact spelled_ipv4 _
  | domain _ named some _ =>
    refine .name ?_ ?_
    · simpa [Host.text] using some
    · simpa [Host.text] using plain_of_toAscii named

theorem legible_authority {scheme : String} (web : scheme = "http" ∨ scheme = "https")
    {cs rest : List Char} {a : Authority} (read : Reader.authority scheme cs = .ok (a, rest)) :
    a.Legible scheme ∧ ∃ host, specialHost host = .ok a.host := by
  have special := isSpecial_of_web web
  simp only [Reader.authority, special] at read
  cases info : credentials true cs with
  | error e =>
    simp only [info, bind, Except.bind] at read
    cases read
  | ok found =>
    obtain ⟨username, password, cs'⟩ := found
    obtain ⟨name, word⟩ := inUserinfo_credentials info
    simp only [info, bind, Except.bind] at read
    generalize splitHost false (cs'.takeWhile fun c => !endsAuthority true c) = parts at read
    obtain ⟨hostText, portText⟩ := parts
    simp only [Bool.true_and, if_true] at read
    split at read
    · cases read
    cases found : specialHost hostText with
    | error e =>
      simp only [found] at read
      cases read
    | ok host =>
      have spelled := spelled_of_specialHost found
      simp only [found] at read
      split at read
      · split at read
        · cases read
        rename_i digits _
        cases number : port scheme (digits ++ cs'.dropWhile fun c => !endsAuthority true c) with
        | error e =>
          simp only [number] at read
          cases read
        | ok found =>
          obtain ⟨n, rest'⟩ := found
          simp only [number, pure, Except.pure, Except.ok.injEq, Prod.mk.injEq] at read
          obtain ⟨rfl, -⟩ := read
          refine ⟨⟨name, word, spelled, fun m same => ?_⟩, hostText, found⟩
          simp only at same
          subst same
          exact of_port number
      · split at read
        · cases read
        · simp only [pure, Except.pure, Except.ok.injEq, Prod.mk.injEq] at read
          obtain ⟨rfl, -⟩ := read
          exact ⟨⟨name, word, spelled, fun m same => by cases same⟩, hostText, found⟩

theorem of_tail {scheme : String} (special : isSpecial scheme = true) {cs main : List Char}
    {query fragment : Option String} (split : tail scheme cs = (main, query, fragment)) :
    (∀ q, query = some q → ∀ c ∈ q.toList, Percent.inSpecialQuery c = false) ∧
      ∀ f, fragment = some f → ∀ c ∈ f.toList, Percent.inFragment c = false := by
  simp only [tail, special, if_true, Prod.mk.injEq] at split
  obtain ⟨-, rfl, rfl⟩ := split
  constructor
  · intro q found
    split at found
    · cases found
      exact fun c member => Percent.of_mem_encode Percent.writable_inSpecialQuery member
    · cases found
  · intro f found
    split at found
    · cases found
      exact fun c member => Percent.of_mem_encode Percent.writable_inFragment member
    · cases found

theorem of_parse {s : String} {u : Url} (read : Url.parse s = .ok u)
    (web : u.scheme = "http" ∨ u.scheme = "https") : ∃ cs main above below a,
      tail u.scheme cs = (main, u.query, u.fragment) ∧
      Reader.authority u.scheme above = .ok (a, below) ∧ u.authority = some a ∧
      u.path = pathAfterAuthority u.scheme below := by
  unfold Url.parse at read
  split at read
  · cases read
  rename_i scheme rest _
  generalize parts : tail scheme rest = found at read
  obtain ⟨main, query, fragment⟩ := found
  simp only [bind, Except.bind] at read
  cases after : afterScheme scheme main with
  | error e =>
    simp only [after] at read
    cases read
  | ok found =>
    obtain ⟨authority, path⟩ := found
    simp only [after, pure, Except.pure, Except.ok.injEq] at read
    subst read
    simp only at web
    simp only [afterScheme, if_neg (ne_file_of_web web), isSpecial_of_web web, if_true, bind,
      Except.bind] at after
    cases authorized : Reader.authority scheme (main.dropWhile (isSlash true)) with
    | error e =>
      simp only [authorized] at after
      cases after
    | ok found =>
      obtain ⟨a, below⟩ := found
      simp only [authorized, pure, Except.pure, Except.ok.injEq, Prod.mk.injEq] at after
      obtain ⟨rfl, rfl⟩ := after
      exact ⟨rest, main, _, below, a, parts, authorized, rfl, rfl⟩

theorem legible_of_parse {s : String} {u : Url} (read : Url.parse s = .ok u)
    (web : u.scheme = "http" ∨ u.scheme = "https") : u.Legible := by
  obtain ⟨cs, main, above, below, a, parts, authorized, served, path⟩ := of_parse read web
  obtain ⟨query, fragment⟩ := of_tail (isSpecial_of_web web) parts
  exact ⟨web, ⟨a, served, (legible_authority web authorized).1⟩, path ▸ path_of_web web below, query,
    fragment⟩

end Playground.Url
