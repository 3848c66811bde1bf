import Playground.Proofs.Gzip.Continued
import Playground.Proofs.Gzip.Member

/-!
What a member holds without a limit. Main statements: reading a member with a limit is reading it
without one, unless more bytes come out than the limit allows; and more input makes no other flow of
a member, unless the member breaks off, and then none that is shorter.
-/

namespace Playground.Gzip

theorem Bits.length_ofBytes_mod (bytes : List UInt8) : (ofBytes bytes).length % 8 = 0 := by
  induction bytes with
  | nil => rfl
  | cons b bytes ih =>
    rw [ofBytes_cons, List.length_append, length_ofNat]
    omega

namespace Member

def trailed (stream : Flow Inflate.Fault (List Bool)) : Flow Fault Unit where
  out := stream.out
  ending :=
    match stream.ending with
    | .error e => .error (ofInflate e)
    | .ok bits => checkTrailer stream.out (Bits.align bits) >>= fun _ => .ok ()

/-- What the first member of some input holds, as far as it can be read, and how that ends. -/
def flow (input : List UInt8) : Flow Fault Unit :=
  Flow.after ByteArray.empty (dropHeader input) fun rest =>
    trailed (Inflate.Unlimited.run (Bits.ofBytes rest))

theorem checkTrailer_eq_map (out : ByteArray) (bits : List Bool) :
    checkTrailer out bits = (checkTrailer out bits >>= fun _ => .ok ()).map fun _ => out := by
  unfold checkTrailer
  split
  · rfl
  · split
    · rfl
    · split <;> rfl

theorem checkTrailer_ne_error {out : ByteArray} {bits : List Bool} {e : Fault}
    (read : e ≠ .endOfInput) (fits : e ≠ .checksum) :
    (checkTrailer out bits >>= fun _ => .ok ()) ≠ .error e := by
  unfold checkTrailer
  split
  · rintro ⟨⟩
    exact read rfl
  · split
    · rintro ⟨⟩
      exact read rfl
    · split
      · nofun
      · rintro ⟨⟩
        exact fits rfl

section TooLong

theorem dropField_ne_tooLong (used : Nat) (input : List UInt8) :
    dropField used input ≠ .error .tooLong := by
  induction input generalizing used with
  | nil => nofun
  | cons b rest ih => exact ite_ne_error nofun (ite_ne_error nofun (ih (used + 1)))

theorem dropExtra_ne_tooLong (input : List UInt8) : dropExtra input ≠ .error .tooLong := by
  unfold dropExtra
  split
  · exact ite_ne_error nofun nofun
  · nofun

theorem checkHeader_ne_tooLong (whole input : List UInt8) :
    checkHeader whole input ≠ .error .tooLong := by
  unfold checkHeader
  split
  · exact ite_ne_error nofun nofun
  · nofun

theorem dropHeader_ne_tooLong (input : List UInt8) : dropHeader input ≠ .error .tooLong := by
  unfold dropHeader
  split
  · refine ite_ne_error nofun ?_
    refine bind_ne_error (ite_ne_error (dropExtra_ne_tooLong _) nofun) fun rest => ?_
    refine bind_ne_error (ite_ne_error (dropField_ne_tooLong 0 rest) nofun) fun rest => ?_
    refine bind_ne_error (ite_ne_error (dropField_ne_tooLong 0 rest) nofun) fun rest => ?_
    exact ite_ne_error (checkHeader_ne_tooLong _ rest) nofun
  · nofun

theorem flow_ne_tooLong (input : List UInt8) : (flow input).ending ≠ .error .tooLong := by
  refine Flow.after_ne_error (dropHeader_ne_tooLong input) fun rest => ?_
  have stream := Inflate.Unlimited.blocks_ne_tooLong ByteArray.empty (Bits.ofBytes rest)
    ((Bits.ofBytes rest).length + 1)
  unfold trailed
  split
  case h_1 e ending =>
    cases e with
    | tooLong => exact absurd ending stream
    | _ => nofun
  case h_2 => exact checkTrailer_ne_error nofun nofun

end TooLong

section Inflate

variable {limit : Nat} {input : List UInt8}

theorem inflate_eq (limit : Nat) (input : List UInt8) :
    inflate limit input = dropHeader input >>= fun rest =>
      (Inflate.bounded limit (Inflate.Unlimited.run (Bits.ofBytes rest))).mapError ofInflate := by
  rw [inflate]
  refine congrArg (dropHeader input >>= ·) (funext fun rest => ?_)
  rw [Inflate.run_eq]
  cases Inflate.bounded limit (Inflate.Unlimited.run (Bits.ofBytes rest)) <;> rfl

theorem inflate_of_beyond (beyond : limit < (flow input).out.size) :
    inflate limit input = .error .tooLong := by
  rw [inflate_eq]
  rw [flow] at beyond
  cases header : dropHeader input with
  | error e =>
    rw [header] at beyond
    exact absurd beyond (Nat.not_lt_zero limit)
  | ok rest =>
    rw [header] at beyond
    have outside : limit < (Inflate.Unlimited.run (Bits.ofBytes rest)).out.size := beyond
    simp only [bind, Except.bind, Inflate.bounded, if_pos outside]
    rfl

theorem inflate_of_within (within : (flow input).out.size ≤ limit) :
    (∃ e, inflate limit input = .error e ∧ (flow input).ending = .error e) ∨
      ∃ bits, inflate limit input = .ok ⟨(flow input).out, bits⟩ ∧
        (flow input).ending = checkTrailer (flow input).out (Bits.align bits) >>= fun _ => .ok () := by
  rw [inflate_eq]
  rw [flow] at within ⊢
  cases header : dropHeader input with
  | error e => exact .inl ⟨e, rfl, rfl⟩
  | ok rest =>
    rw [header] at within
    have inside : ¬ limit < (Inflate.Unlimited.run (Bits.ofBytes rest)).out.size :=
      Nat.not_lt.mpr within
    simp only [bind, Except.bind, Inflate.bounded, if_neg inside, Flow.after, trailed]
    cases (Inflate.Unlimited.run (Bits.ofBytes rest)).ending with
    | error e => exact .inl ⟨ofInflate e, rfl, rfl⟩
    | ok bits => exact .inr ⟨bits, rfl, rfl⟩

theorem inflate_eq_tooLong_iff :
    inflate limit input = .error .tooLong ↔ limit < (flow input).out.size := by
  refine ⟨fun long => Nat.lt_of_not_ge fun within => ?_, inflate_of_beyond⟩
  obtain ⟨e, failed, ending⟩ | ⟨bits, whole, -⟩ := inflate_of_within within
  · rw [failed] at long
    cases long
    exact flow_ne_tooLong input ending
  · rw [whole] at long
    cases long

theorem inflate_eq_corruptStream_iff : inflate limit input = .error .corruptStream ↔
    (flow input).out.size ≤ limit ∧ (flow input).ending = .error .corruptStream := by
  by_cases beyond : limit < (flow input).out.size
  · rw [inflate_of_beyond beyond]
    exact iff_of_false nofun fun corrupt => Nat.not_le.mpr beyond corrupt.1
  · have within : (flow input).out.size ≤ limit := Nat.not_lt.mp beyond
    obtain ⟨e, failed, ending⟩ | ⟨bits, whole, ending⟩ := inflate_of_within within
    · simp [failed, ending, within]
    · rw [whole, ending]
      have sound : (checkTrailer (flow input).out (Bits.align bits) >>= fun _ => .ok ()) ≠
          .error .corruptStream := checkTrailer_ne_error nofun nofun
      exact iff_of_false nofun fun corrupt => sound corrupt.2

theorem decode_of_beyond (beyond : limit < (flow input).out.size) :
    decode limit input = .error (overflow limit input) := by
  rw [decode, inflate_of_beyond beyond]

theorem decode_of_within (within : (flow input).out.size ≤ limit) :
    decode limit input = (flow input).ending.map fun _ => (flow input).out := by
  obtain ⟨e, failed, ending⟩ | ⟨bits, whole, ending⟩ := inflate_of_within within
  · have short : e ≠ .tooLong := fun long => flow_ne_tooLong input (long ▸ ending)
    rw [decode, failed, ending]
    cases e <;> first | rfl | exact absurd rfl short
  · rw [decode, whole, ending]
    exact checkTrailer_eq_map _ (Bits.align bits)

end Inflate

section Header

variable (more : List UInt8)

theorem dropField_continues (used : Nat) (input : List UInt8) :
    Continues .endOfInput (· ++ more) (dropField used input) (dropField used (input ++ more)) := by
  induction input generalizing used with
  | nil => exact .inl rfl
  | cons b rest ih =>
    exact .ite _ (fun _ => .ok _) fun _ => .ite _ (fun _ => .error _) fun _ => ih (used + 1)

theorem dropExtra_continues (input : List UInt8) :
    Continues .endOfInput (· ++ more) (dropExtra input) (dropExtra (input ++ more)) := by
  match input with
  | [] => exact .inl rfl
  | [_] => exact .inl rfl
  | a :: b :: rest =>
    simp only [List.cons_append, dropExtra]
    by_cases short : rest.length < ofLittleEndian [a, b]
    · exact .inl (if_pos short)
    · have inside : ofLittleEndian [a, b] ≤ rest.length := Nat.not_lt.mp short
      have still : ¬ (rest ++ more).length < ofLittleEndian [a, b] := by
        rw [List.length_append]
        omega
      rw [if_neg short, if_neg still, List.drop_append_of_le_length inside]
      exact .ok _

theorem checkHeader_continues (whole input : List UInt8) :
    Continues .endOfInput (· ++ more) (checkHeader whole input)
      (checkHeader (whole ++ more) (input ++ more)) := by
  match input with
  | [] => exact .inl rfl
  | [_] => exact .inl rfl
  | a :: b :: rest =>
    have same : (whole ++ more).take ((whole ++ more).length - ((rest ++ more).length + 2)) =
        whole.take (whole.length - (rest.length + 2)) := by
      have place : (whole ++ more).length - ((rest ++ more).length + 2) =
          whole.length - (rest.length + 2) := by
        simp only [List.length_append]
        omega
      rw [place, List.take_append_of_le_length (Nat.sub_le _ _)]
    simp only [List.cons_append, checkHeader, same]
    exact .ite _ (fun _ => .ok _) fun _ => .error _

theorem when_continues (condition : Bool) {f g : List UInt8 → Except Fault (List UInt8)}
    (step : ∀ input, Continues .endOfInput (· ++ more) (f input) (g (input ++ more)))
    (input : List UInt8) :
    Continues .endOfInput (· ++ more) (when condition f input) (when condition g (input ++ more)) :=
  .ite _ (fun _ => step input) fun _ => .ok _

theorem dropHeader_continues (input : List UInt8) :
    Continues .endOfInput (· ++ more) (dropHeader input) (dropHeader (input ++ more)) := by
  rw [dropHeader.eq_def input]
  split
  case h_1 m n method flags _ _ _ _ _ _ rest =>
    simp only [List.cons_append, dropHeader]
    refine .ite _ (fun _ => .error _) fun _ => ?_
    refine (when_continues more _ (dropExtra_continues more) rest).bind fun rest => ?_
    refine (when_continues more _ (dropField_continues more 0) rest).bind fun rest => ?_
    refine (when_continues more _ (dropField_continues more 0) rest).bind fun rest => ?_
    exact when_continues more _ (checkHeader_continues more _) rest
  case h_2 => exact .inl rfl

end Header

theorem checkTrailer_continues (more : List Bool) (out : ByteArray) (bits : List Bool) :
    Continues .endOfInput id (checkTrailer out bits) (checkTrailer out (bits ++ more)) := by
  unfold checkTrailer
  cases check : Bits.take? 32 bits with
  | none => exact .inl rfl
  | some taken =>
    rw [Bits.take?_append check]
    simp only
    cases length : Bits.take? 32 taken.2 with
    | none => exact .inl rfl
    | some taken' =>
      rw [Bits.take?_append length]
      exact .ite _ (fun _ => .ok _) fun _ => .error _

def BreaksOff (f : Flow Fault Unit) : Prop :=
  f.ending = .error .endOfInput ∨ f.ending = .error .incompleteStream

theorem trailed_continued {more : List Bool} (whole : more.length % 8 = 0)
    {stream stream' : Flow Inflate.Fault (List Bool)}
    (longer : Flow.Continued .incomplete (· ++ more) stream stream') :
    trailed stream' = trailed stream ∨
      BreaksOff (trailed stream) ∧ (trailed stream).out.size ≤ (trailed stream').out.size := by
  obtain ⟨out, ending⟩ := stream
  obtain ⟨broken, longer⟩ | rfl := longer
  · obtain rfl : ending = .error .incomplete := broken
    exact .inr ⟨.inr rfl, longer⟩
  · cases ending with
    | error e => exact .inl rfl
    | ok bits =>
      have aligned := Bits.align_append_of_whole whole bits
      obtain cut | same := checkTrailer_continues more out (Bits.align bits)
      · refine .inr ⟨.inl ?_, Nat.le_refl _⟩
        simp only [trailed, bind, Except.bind, cut]
      · rw [Except.map_id, id] at same
        refine .inl ?_
        simp only [trailed, Except.map, aligned, same]

/-- A member that is whole, or that cannot be read for other reasons than that it breaks off, is read
as it is whatever follows; one that breaks off is read no less far. -/
theorem flow_append (input more : List UInt8) :
    flow (input ++ more) = flow input ∨
      BreaksOff (flow input) ∧ (flow input).out.size ≤ (flow (input ++ more)).out.size := by
  rw [flow, flow]
  obtain cut | same := dropHeader_continues more input
  · rw [cut]
    exact .inr ⟨.inl rfl, Nat.zero_le _⟩
  · rw [same]
    cases dropHeader input with
    | error e => exact .inl rfl
    | ok rest =>
      have whole := Bits.length_ofBytes_mod more
      have longer := Inflate.Unlimited.run_continued whole (Bits.ofBytes rest)
      rw [← Bits.ofBytes_append] at longer
      exact trailed_continued whole longer

theorem flow_append_of_whole {input : List UInt8} (whole : (flow input).ending = .ok ())
    (more : List UInt8) : flow (input ++ more) = flow input := by
  obtain same | ⟨broken | broken, -⟩ := flow_append input more
  · exact same
  · cases whole.symm.trans broken
  · cases whole.symm.trans broken

theorem flow_append_of_corrupt {input : List UInt8}
    (corrupt : (flow input).ending = .error .corruptStream) (more : List UInt8) :
    flow (input ++ more) = flow input := by
  obtain same | ⟨broken | broken, -⟩ := flow_append input more
  · exact same
  · cases corrupt.symm.trans broken
  · cases corrupt.symm.trans broken

theorem size_flow_le (input more : List UInt8) :
    (flow input).out.size ≤ (flow (input ++ more)).out.size := by
  obtain same | ⟨-, longer⟩ := flow_append input more
  · exact Nat.le_of_eq (by rw [same])
  · exact longer

/-- The first member of some input is whole and holds some bytes. -/
def Holds (input : List UInt8) (data : ByteArray) : Prop := flow input = ⟨data, .ok ()⟩

/-- What is read of some input is what its first member holds, if that is within the limit. -/
theorem decode_eq_ok_iff {limit : Nat} {input : List UInt8} {data : ByteArray} :
    decode limit input = .ok data ↔ Holds input data ∧ data.size ≤ limit := by
  by_cases beyond : limit < (flow input).out.size
  · rw [decode_of_beyond beyond]
    refine iff_of_false nofun ?_
    rintro ⟨holds, within⟩
    rw [holds] at beyond
    exact Nat.not_le.mpr beyond within
  · rw [decode_of_within (Nat.not_lt.mp beyond), Holds]
    revert beyond
    obtain ⟨out, ending⟩ := flow input
    intro beyond
    constructor
    · intro ok
      cases ending <;> cases ok
      exact ⟨rfl, Nat.not_lt.mp beyond⟩
    · rintro ⟨⟨⟩, -⟩
      rfl

theorem holds_encode (data : ByteArray) : Holds (encode data) data := by
  obtain ⟨bits, fits, read⟩ := exists_inflate_encode data
  have stream := read data.size
  rw [if_pos (Nat.le_refl _)] at stream
  have whole : decode data.size (encode data) = .ok data := by
    rw [decode, stream]
    exact fits
  exact (decode_eq_ok_iff.mp whole).1

end Member

end Playground.Gzip
