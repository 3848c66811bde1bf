import Playground.Json.Form
import Playground.Proofs.Keyed

/-!
JSON that is read back as it was printed. The reader, started where a value may stand, takes the
text of a value and stands after the value as it is written; nothing that follows the text plays a
part. Main statement: values without numbers, whose members ascend and which do not nest too deep,
are read back from their texts.
-/

namespace Playground.Json

theorem itemChars_cons (item next : Json) (items : List Json) :
    itemChars (item :: next :: items) = item.chars ++ ',' :: itemChars (next :: items) := rfl

theorem exists_itemChars_eq_append (item : Json) (items : List Json) :
    ∃ tail, itemChars (item :: items) = item.chars ++ tail := by
  cases items with
  | nil => exact ⟨[], (List.append_nil _).symm⟩
  | cons next items => exact ⟨_, itemChars_cons item next items⟩

theorem memberChars_cons (key : String) (value : Json) (next : String × Json)
    (members : List (String × Json)) :
    memberChars ((key, value) :: next :: members) =
      quoteChars key ++ ':' :: value.chars ++ ',' :: memberChars (next :: members) := rfl

namespace Reader

theorem run_cons_of_step {r r' : Reader} {c : Char} (h : r.step c = some r') (rest : List Char) :
    r.run (c :: rest) = r'.run rest := by
  rw [run, h]

section Text

variable (isKey : Bool) (t : String) (frames : List Frame) (rest : List Char)

def inside : Reader := ⟨.text isKey ⟨t, none, true⟩ .outside, frames⟩

theorem run_escape (c : Char) :
    (inside isKey t frames).run (escape c ++ rest) = (inside isKey (t.push c) frames).run rest := by
  unfold escape
  split
  case h_8 _ quote backslash _ _ _ _ _ =>
    split
    case isTrue control =>
      have high : Text.Hex.value? (Text.Hex.digit (c.toNat / 16)) = some (c.toNat / 16) :=
        Text.Hex.value?_digit _ (by omega)
      have low : Text.Hex.value? (Text.Hex.digit (c.toNat % 16)) = some (c.toNat % 16) :=
        Text.Hex.value?_digit _ (by omega)
      have zero : Text.Hex.value? '0' = some 0 := by decide
      have whole : c.toNat / 16 * 16 + c.toNat % 16 = c.toNat := by omega
      have unit : Literal.pushUnit ⟨t, none, true⟩ c.toNat = ⟨t.push c, none, true⟩ := by
        have below : ¬ 0xd800 ≤ c.toNat := by omega
        have below' : ¬ 0xdc00 ≤ c.toNat := by omega
        simp [Literal.pushUnit, below, below', Char.ofNat_toNat]
      simp [inside, run, step, inText, zero, high, low, whole, unit]
    case isFalse printed =>
      have plain : c ≠ '"' ∧ c ≠ '\\' := ⟨quote, backslash⟩
      have taken : (inside isKey t frames).step c = some (inside isKey (t.push c) frames) := by
        simp [inside, step, inText, plain, printed, Literal.push]
      exact run_cons_of_step taken rest
  all_goals rfl

theorem run_escapes (cs : List Char) :
    (inside isKey t frames).run (cs.flatMap escape ++ rest) =
      (inside isKey (t ++ String.ofList cs) frames).run rest := by
  induction cs generalizing t with
  | nil => simp
  | cons c cs ih =>
    have joined : t.push c ++ String.ofList cs = t ++ String.ofList (c :: cs) := by
      apply String.toList_inj.mp
      simp
    rw [List.flatMap_cons, List.append_assoc, run_escape, ih, joined]

end Text

theorem run_quoteChars (s : String) (frames : List Frame) (rest : List Char) :
    run ⟨.value, frames⟩ (quoteChars s ++ rest) = run ⟨.after (.text (some s)), frames⟩ rest := by
  have opened : step ⟨.value, frames⟩ '"' = some (inside false "" frames) := rfl
  have closed : step (inside false s frames) '"' = some ⟨.after (.text (some s)), frames⟩ := by
    simp [step, inside, inText, closeText, Literal.finish]
  have body : quoteChars s ++ rest = '"' :: (s.toList.flatMap escape ++ '"' :: rest) := by
    simp [quoteChars]
  rw [body, run_cons_of_step opened, run_escapes]
  simp [run_cons_of_step closed]

theorem run_key (s : String) {place : Place} (keyed : place = .key ∨ place = .firstKey)
    (done : List (Option String × Written)) (frames : List Frame) (rest : List Char) :
    run ⟨place, .object done :: frames⟩ (quoteChars s ++ ':' :: rest) =
      run ⟨.value, .member done (some s) :: frames⟩ rest := by
  have opened : step ⟨place, .object done :: frames⟩ '"' =
      some (inside true "" (.object done :: frames)) := by
    obtain rfl | rfl := keyed <;> rfl
  have closed : step (inside true s (.object done :: frames)) '"' =
      some ⟨.colon, .member done (some s) :: frames⟩ := by
    simp [step, inside, inText, closeText, Literal.finish]
  have colon : step ⟨.colon, .member done (some s) :: frames⟩ ':' =
      some ⟨.value, .member done (some s) :: frames⟩ := rfl
  have body : quoteChars s ++ ':' :: rest =
      '"' :: (s.toList.flatMap escape ++ '"' :: ':' :: rest) := by
    simp [quoteChars]
  rw [body, run_cons_of_step opened, run_escapes]
  simp [run_cons_of_step closed, run_cons_of_step colon]

def Reads (j : Json) : Prop := ∀ frames rest,
  run ⟨.value, frames⟩ (j.chars ++ rest) = run ⟨.after j.written, frames⟩ rest

theorem run_items {items : List Json} (each : ∀ item ∈ items, Reads item) (some : items ≠ [])
    (done : List Written) (frames : List Frame) (rest : List Char) :
    run ⟨.value, .array done :: frames⟩ (itemChars items ++ ']' :: rest) =
      run ⟨.after (.array (done.reverse ++ writtenItems items)), frames⟩ rest := by
  induction items generalizing done with
  | nil => exact absurd rfl some
  | cons item items ih =>
    have first : Reads item := each item List.mem_cons_self
    cases items with
    | nil =>
      rw [itemChars, first, run_cons_of_step rfl]
      simp [writtenItems]
    | cons next items =>
      have later := ih (fun j member => each j (List.mem_cons_of_mem item member)) (by simp)
      rw [itemChars_cons, List.append_assoc, first, List.cons_append, run_cons_of_step rfl, later]
      simp [writtenItems]

theorem run_members {members : List (String × Json)} (each : ∀ m ∈ members, Reads m.2)
    (some : members ≠ []) {place : Place} (keyed : place = .key ∨ place = .firstKey)
    (done : List (Option String × Written)) (frames : List Frame) (rest : List Char) :
    run ⟨place, .object done :: frames⟩ (memberChars members ++ '\x7d' :: rest) =
      run ⟨.after (.object (done.reverse ++ writtenMembers members)), frames⟩ rest := by
  induction members generalizing done place with
  | nil => exact absurd rfl some
  | cons m members ih =>
    obtain ⟨key, value⟩ := m
    have first : Reads value := each (key, value) List.mem_cons_self
    cases members with
    | nil =>
      rw [memberChars, List.append_assoc, List.cons_append, run_key key keyed, first,
        run_cons_of_step rfl]
      simp [writtenMembers]
    | cons next members =>
      have later := ih (fun j member => each j (List.mem_cons_of_mem (key, value) member)) (by simp)
        (.inl rfl)
      rw [memberChars_cons]
      simp only [List.append_assoc, List.cons_append]
      rw [run_key key keyed, first, run_cons_of_step rfl, later]
      simp [writtenMembers]

theorem reads_object {members : List (String × Json)} (each : ∀ m ∈ members, Reads m.2) :
    Reads (.object members) := by
  intro frames rest
  have opened : Reader.step ⟨.value, frames⟩ '\x7b' =
      some ⟨.firstKey, .object [] :: frames⟩ := rfl
  simp only [chars, List.cons_append, List.append_assoc, List.nil_append]
  rw [Reader.run_cons_of_step opened]
  cases members with
  | nil => rfl
  | cons m members => exact Reader.run_members each (by simp) (.inr rfl) [] frames rest

theorem Reads.read?_print {j : Json} (h : Reads j) : Written.read? j.print = some j.written := by
  have body : start.run j.chars = some ⟨.after j.written, []⟩ := by
    simpa [run, start] using h [] []
  rw [Written.read?, print, String.toList_ofList, Written.ofChars?, body]
  rfl

end Reader

namespace Written

variable {levels : Nat}

theorem values?_writtenItems {items : List Json}
    (each : ∀ item ∈ items, item.written.value? levels = some item) :
    values? levels (writtenItems items) = some items := by
  induction items with
  | nil => rfl
  | cons item items ih =>
    have first := each item List.mem_cons_self
    have later := ih fun j member => each j (List.mem_cons_of_mem item member)
    simp [writtenItems, values?, first, later]

theorem members?_writtenMembers {members : List (String × Json)}
    (each : ∀ m ∈ members, m.2.written.value? levels = some m.2) :
    members? levels (writtenMembers members) = some members := by
  induction members with
  | nil => rfl
  | cons m members ih =>
    obtain ⟨key, value⟩ := m
    have first := each (key, value) List.mem_cons_self
    have later := ih fun j member => each j (List.mem_cons_of_mem (key, value) member)
    simp [writtenMembers, members?, first, later]

end Written

/-- Values without numbers whose members ascend and whose containers nest at most `levels` deep. -/
inductive Readable : Nat → Json → Prop where
  | null (levels : Nat) : Readable levels .null
  | bool (levels : Nat) (b : Bool) : Readable levels (.bool b)
  | text (levels : Nat) (s : String) : Readable levels (.text s)
  | array {levels : Nat} {items : List Json} (each : ∀ item ∈ items, Readable levels item) :
      Readable (levels + 1) (.array items)
  | object {levels : Nat} {members : List (String × Json)} (ascending : Keyed.Ascending members)
      (each : ∀ m ∈ members, Readable levels m.2) : Readable (levels + 1) (.object members)

namespace Readable

variable {levels : Nat} {j : Json}

theorem run_firstValue (h : Readable levels j) (frames : List Frame) (rest : List Char) :
    Reader.run ⟨.firstValue, frames⟩ (j.chars ++ rest) =
      Reader.run ⟨.value, frames⟩ (j.chars ++ rest) := by
  cases h with
  | bool levels b => cases b <;> rfl
  | _ => rfl

theorem reads (h : Readable levels j) : Reader.Reads j := by
  induction h with
  | null levels => exact fun frames rest => rfl
  | bool levels b => cases b <;> exact fun frames rest => rfl
  | text levels s => exact Reader.run_quoteChars s
  | array each ih =>
    rename_i levels items
    intro frames rest
    have opened : Reader.step ⟨.value, frames⟩ '[' =
        some ⟨.firstValue, .array [] :: frames⟩ := rfl
    simp only [chars, List.cons_append, List.append_assoc, List.nil_append]
    rw [Reader.run_cons_of_step opened]
    cases items with
    | nil => rfl
    | cons item items =>
      -- The first place of an array also takes the closing bracket, which begins no item.
      obtain ⟨tail, begins⟩ := exists_itemChars_eq_append item items
      have first := (each item List.mem_cons_self).run_firstValue (.array [] :: frames)
      have body := Reader.run_items ih (by simp) [] frames rest
      rw [begins, List.append_assoc] at body ⊢
      rw [first]
      exact body
  | object ascending each ih => exact Reader.reads_object ih

theorem value?_written (h : Readable levels j) : j.written.value? levels = some j := by
  induction h with
  | null levels => rfl
  | bool levels b => rfl
  | text levels s => rfl
  | array each ih => simp [written, Written.value?, Written.values?_writtenItems ih]
  | object ascending each ih =>
    simp [written, Written.value?, Written.members?_writtenMembers ih, ofMembers,
      Keyed.sorted_of_ascending ascending]

theorem read?_print (h : Readable Written.maxLevels j) : Json.read? j.print = some j := by
  rw [Json.read?, h.reads.read?_print]
  exact h.value?_written

end Readable

theorem read?_print_object {members : List (String × Json)} {levels : Nat}
    (each : ∀ m ∈ members, Readable levels m.2) (deep : levels + 1 = Written.maxLevels) :
    read? (object members).print = some (ofMembers members) := by
  have reads := Reader.reads_object fun m member => (each m member).reads
  have values := Written.members?_writtenMembers fun m member => (each m member).value?_written
  rw [read?, reads.read?_print, ← deep]
  simp [written, Written.value?, values]

end Playground.Json
