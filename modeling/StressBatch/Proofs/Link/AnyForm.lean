import StressBatch.Proofs.Link.Remote

/-!
# Payloads come in any form

A peer may write the fields of a record in any order, leave out those that have a default, add
fields that this library does not know, and pick any form that the format has for a value. Whatever
it does, the record is read as the same payload, at whatever depth it stands. A record that gives a
field twice or lacks one that is needed is refused, and so is every payload that holds one.
-/

namespace StressBatch

open Msgpack

open Msgpack.Fields

/-! ## Broken payloads -/

/-- The values that stand for no job: only the launch arguments may be left out. -/
def Job.Flawed : Value → Prop := Msgpack.Flawed fieldNames ["launch_args"] fun _ _ => False

/-- The values that stand for no environment. -/
def Environment.Flawed : Value → Prop := Msgpack.Flawed fieldNames [] fun _ _ => False

/-- The values that stand for no result: only the environment may be left out, and neither it nor
the job may be broken. -/
def TestResult.Flawed : Value → Prop :=
  Msgpack.Flawed fieldNames ["env"] fun name v =>
    (name = "job" ∧ Job.Flawed v) ∨ (name = "env" ∧ Environment.Flawed v)

theorem not_flawed_nil {names omissible : List String} {bad : String → Value → Prop} :
    ¬ Msgpack.Flawed names omissible bad .nil := nofun

theorem optional?_eq_none {α : Type} {read : Value → Option α} {names omissible : List String}
    {bad : String → Value → Prop} {v : Value} (hflawed : Msgpack.Flawed names omissible bad v)
    (hread : read v = none) : Value.optional? read v = none := by
  have hne : v ≠ .nil := fun hnil => not_flawed_nil (hnil ▸ hflawed)
  rw [Value.optional?.eq_2 _ _ hne, hread, Option.map_none]

theorem Job.ofValue?_of_flawed {v : Value} (h : Job.Flawed v) : Job.ofValue? v = none := by
  rw [Option.eq_none_iff_forall_ne_some]
  intro job hread
  simp only [ofValue?, Option.bind_eq_bind, Option.bind_eq_some_iff] at hread
  obtain ⟨found, hfields, _, hname, _, hthreads, _, hroles, _, hmodes, _, hdispatch, _, -, _,
    hharness, -⟩ := hread
  refine not_flawed_of_suffices (by decide) (by decide) hfields ⟨?_, fun _ => ?_⟩ h
  · exact forall_getElem?_cons (serves_of_required hname fun _ => False.elim) <|
      forall_getElem?_cons (serves_of_required hthreads fun _ => False.elim) <|
      forall_getElem?_cons (serves_of_required hroles fun _ => False.elim) <|
      forall_getElem?_cons (serves_of_required hmodes fun _ => False.elim) <|
      forall_getElem?_cons (serves_of_required hdispatch fun _ => False.elim) <|
      forall_getElem?_cons (serves_of_left (by decide) fun _ => False.elim) <|
      forall_getElem?_cons (serves_of_required hharness fun _ => False.elim) forall_getElem?_nil
  · obtain ⟨v, hv, -⟩ := exists_of_required hharness
    simp [fieldNames, hv]

theorem Environment.ofValue?_of_flawed {v : Value} (h : Environment.Flawed v) :
    Environment.ofValue? v = none := by
  rw [Option.eq_none_iff_forall_ne_some]
  intro env hread
  simp only [ofValue?, Option.bind_eq_bind, Option.bind_eq_some_iff] at hread
  obtain ⟨found, hfields, _, hentries, -⟩ := hread
  refine not_flawed_of_suffices (by decide) (by decide) hfields ⟨?_, fun _ => ?_⟩ h
  · exact forall_getElem?_cons (serves_of_required hentries fun _ => False.elim) forall_getElem?_nil
  · obtain ⟨v, hv, -⟩ := exists_of_required hentries
    simp [fieldNames, hv]

theorem TestResult.ofValue?_of_flawed {v : Value} (h : TestResult.Flawed v) :
    TestResult.ofValue? v = none := by
  rw [Option.eq_none_iff_forall_ne_some]
  intro result hread
  simp only [ofValue?, Option.bind_eq_bind, Option.bind_eq_some_iff] at hread
  obtain ⟨found, hfields, _, hjob, _, hstatus, _, hstates, _, henv, _, hmessages, _, hout, _,
    herr, -⟩ := hread
  refine not_flawed_of_suffices (by decide) (by decide) hfields ⟨?_, fun _ => ?_⟩ h
  · refine forall_getElem?_cons (serves_of_required hjob ?_) <|
      forall_getElem?_cons (serves_of_required hstatus ?_) <|
      forall_getElem?_cons (serves_of_required hstates ?_) <|
      forall_getElem?_cons (serves_of_optional henv (by decide) ?_) <|
      forall_getElem?_cons (serves_of_required hmessages ?_) <|
      forall_getElem?_cons (serves_of_required hout ?_) <|
      forall_getElem?_cons (serves_of_required herr ?_) forall_getElem?_nil
    · rintro w (⟨-, hbad⟩ | ⟨hname, -⟩)
      · exact Job.ofValue?_of_flawed hbad
      · simp at hname
    · simp
    · simp
    · rintro w (⟨hname, -⟩ | ⟨-, hbad⟩)
      · simp at hname
      · exact optional?_eq_none hbad (Environment.ofValue?_of_flawed hbad)
    · simp
    · simp
    · simp
  · obtain ⟨v, hv, -⟩ := exists_of_required herr
    simp [fieldNames, hv]

namespace Link

/-- The values that stand for no pull. -/
def PullJob.Flawed : Value → Prop := Msgpack.Flawed ["token"] [] fun _ _ => False

/-- The values that stand for no push: its result may not be broken. -/
def PushResult.Flawed : Value → Prop :=
  Msgpack.Flawed ["token", "result"] [] fun name v => name = "result" ∧ TestResult.Flawed v

/-- The values that stand for no reply to a pull: the job may be left out, but not broken. -/
def JobReply.Flawed : Value → Prop :=
  Msgpack.Flawed ["job"] ["job"] fun name v => name = "job" ∧ Job.Flawed v

/-- The values that stand for no refusal. -/
def ErrorReply.Flawed : Value → Prop := Msgpack.Flawed ["reason"] [] fun _ _ => False

theorem PullJob.ofValue?_of_flawed {v : Value} (h : PullJob.Flawed v) :
    PullJob.ofValue? v = none := by
  rw [Option.eq_none_iff_forall_ne_some]
  intro pull hread
  simp only [ofValue?, Option.bind_eq_bind, Option.bind_eq_some_iff] at hread
  obtain ⟨found, hfields, _, htoken, -⟩ := hread
  refine not_flawed_of_suffices (by decide) (by decide) hfields ⟨?_, fun _ => ?_⟩ h
  · exact forall_getElem?_cons (serves_of_required htoken fun _ => False.elim) forall_getElem?_nil
  · obtain ⟨v, hv, -⟩ := exists_of_required htoken
    simp [hv]

theorem PushResult.ofValue?_of_flawed {v : Value} (h : PushResult.Flawed v) :
    PushResult.ofValue? v = none := by
  rw [Option.eq_none_iff_forall_ne_some]
  intro push hread
  simp only [ofValue?, Option.bind_eq_bind, Option.bind_eq_some_iff] at hread
  obtain ⟨found, hfields, _, htoken, _, hresult, -⟩ := hread
  refine not_flawed_of_suffices (by decide) (by decide) hfields ⟨?_, fun _ => ?_⟩ h
  · refine forall_getElem?_cons (serves_of_required htoken ?_) <|
      forall_getElem?_cons (serves_of_required hresult ?_) forall_getElem?_nil
    · simp
    · rintro w ⟨-, hbad⟩
      exact TestResult.ofValue?_of_flawed hbad
  · obtain ⟨v, hv, -⟩ := exists_of_required hresult
    simp [hv]

theorem JobReply.ofValue?_of_flawed {v : Value} (h : JobReply.Flawed v) :
    JobReply.ofValue? v = none := by
  rw [Option.eq_none_iff_forall_ne_some]
  intro reply hread
  simp only [ofValue?, Option.bind_eq_bind, Option.bind_eq_some_iff] at hread
  obtain ⟨found, hfields, _, hjob, -⟩ := hread
  refine not_flawed_of_suffices (by decide) (by decide) hfields ⟨?_, fun hlist => ?_⟩ h
  · refine forall_getElem?_cons (serves_of_optional hjob (by decide) ?_) forall_getElem?_nil
    rintro w ⟨-, hbad⟩
    exact optional?_eq_none hbad (Job.ofValue?_of_flawed hbad)
  · -- a list has to hold the job, though a map may leave it out
    intro hnone
    have hslot : found.values[0]? = some none := hnone
    simp [Fields.optional, hslot, hlist] at hjob

theorem ErrorReply.ofValue?_of_flawed {v : Value} (h : ErrorReply.Flawed v) :
    ErrorReply.ofValue? v = none := by
  rw [Option.eq_none_iff_forall_ne_some]
  intro reply hread
  simp only [ofValue?, Option.bind_eq_bind, Option.bind_eq_some_iff] at hread
  obtain ⟨found, hfields, _, hreason, -⟩ := hread
  refine not_flawed_of_suffices (by decide) (by decide) hfields ⟨?_, fun _ => ?_⟩ h
  · exact forall_getElem?_cons (serves_of_required hreason fun _ => False.elim) forall_getElem?_nil
  · obtain ⟨v, hv, -⟩ := exists_of_required hreason
    simp [hv]

/-! ## Payloads of envelopes -/

/-- Whether every envelope whose payload starts with a form of the value is decoded to `a?`. -/
def ReadsAs {α : Type} (read : Value → Option α) (v : Value) (a? : Option α) : Prop :=
  ∀ (envelope : Envelope) bytes rest, Spells maxDepth v bytes → envelope.payload = bytes ++ rest →
    envelope.decode? read = a?

theorem readsAs_of_read {α : Type} {read : Value → Option α} {v : Value} {a? : Option α}
    (h : read v = a?) : ReadsAs read v a? := by
  intro envelope bytes rest hspells hpayload
  rw [Envelope.decode?, hpayload, Value.ofBytes?_of_spells hspells, Option.bind_some, h]

/-- Whether a payload is read in any form: the value that is written for it is one of the forms of
its record, every form is read as the payload, and nothing is read that is broken. -/
structure ReadInAnyForm {α : Type} (read : Value → Option α) (toValue : α → Value)
    (fields : α → List RecordField) (flawed : Value → Prop) (sized : α → Prop) : Prop where
  written : ∀ a, Forms (fields a) (toValue a)
  decoded : ∀ a v, sized a → Forms (fields a) v → ReadsAs read v (some a)
  refused : ∀ v, flawed v → ReadsAs read v none

/-- Every payload of the link is read in any form: with its fields in any order, at every depth,
among fields that no reader knows and whatever these hold, in heads of any length, and also from the
bare list of its fields. A job may leave out its launch arguments if it has none, and a result or a
reply the environment or the job that it does not have; whoever leaves out anything else, or gives a
field twice, is not understood. -/
theorem payload_in_any_form :
    ReadInAnyForm Job.ofValue? Job.toValue Job.fields Job.Flawed Job.Sized ∧
    ReadInAnyForm Environment.ofValue? Environment.toValue Environment.fields Environment.Flawed
      (fun _ => True) ∧
    ReadInAnyForm TestResult.ofValue? TestResult.toValue TestResult.fields TestResult.Flawed
      TestResult.Sized ∧
    ReadInAnyForm PullJob.ofValue? PullJob.toValue PullJob.fields PullJob.Flawed
      (fun _ => True) ∧
    ReadInAnyForm JobReply.ofValue? JobReply.toValue JobReply.fields JobReply.Flawed
      (fun reply => ∀ job ∈ reply.job, job.Sized) ∧
    ReadInAnyForm PushResult.ofValue? PushResult.toValue PushResult.fields PushResult.Flawed
      (fun push => push.result.Sized) ∧
    ReadInAnyForm ErrorReply.ofValue? ErrorReply.toValue ErrorReply.fields ErrorReply.Flawed
      (fun _ => True) := by
  refine ⟨⟨Job.forms_toValue, fun job v hsized hforms => ?_, fun v hflawed => ?_⟩,
    ⟨Environment.forms_toValue, fun env v _ hforms => ?_, fun v hflawed => ?_⟩,
    ⟨TestResult.forms_toValue, fun result v hsized hforms => ?_, fun v hflawed => ?_⟩,
    ⟨PullJob.forms_toValue, fun pull v _ hforms => ?_, fun v hflawed => ?_⟩,
    ⟨JobReply.forms_toValue, fun reply v hsized hforms => ?_, fun v hflawed => ?_⟩,
    ⟨PushResult.forms_toValue, fun push v hsized hforms => ?_, fun v hflawed => ?_⟩,
    ⟨ErrorReply.forms_toValue, fun reply v _ hforms => ?_, fun v hflawed => ?_⟩⟩
  · exact readsAs_of_read (Job.ofValue?_of_forms hsized hforms)
  · exact readsAs_of_read (Job.ofValue?_of_flawed hflawed)
  · exact readsAs_of_read (Environment.ofValue?_of_forms hforms)
  · exact readsAs_of_read (Environment.ofValue?_of_flawed hflawed)
  · exact readsAs_of_read (TestResult.ofValue?_of_forms hsized hforms)
  · exact readsAs_of_read (TestResult.ofValue?_of_flawed hflawed)
  · exact readsAs_of_read (PullJob.ofValue?_of_forms hforms)
  · exact readsAs_of_read (PullJob.ofValue?_of_flawed hflawed)
  · exact readsAs_of_read (JobReply.ofValue?_of_forms hsized hforms)
  · exact readsAs_of_read (JobReply.ofValue?_of_flawed hflawed)
  · exact readsAs_of_read (PushResult.ofValue?_of_forms hsized hforms)
  · exact readsAs_of_read (PushResult.ofValue?_of_flawed hflawed)
  · exact readsAs_of_read (ErrorReply.ofValue?_of_forms hforms)
  · exact readsAs_of_read (ErrorReply.ofValue?_of_flawed hflawed)

/-- A refusal behind a field that nobody knows, with heads that are longer than they need to be. -/
def strangeRefusal : Bytes :=
  [0xde, 0, 2, 0xd9, 1, 0x78, 0xdc, 0, 1, 0xc0, 0xda, 0, 6] ++ Text.Utf8.encode "reason" ++
    [0xa2, 0x6e, 0x6f]

/-- The value of that refusal. -/
def strangeRefusalValue : Value :=
  .map [(.text "x", .array [.nil]), (.text "reason", .text "no")]

/-- The fields of a job that has no launch arguments. -/
def sharedJobFields : List (String × Value) :=
  [("name", .text "Counter"), ("threads", .uint 2), ("roles", .list .text ["left", "right"]),
    ("modes", .list .text ["tier1", "tier1"]), ("dispatch", .text "forked"),
    ("harness", .text "builtin.racy_counter")]

/-- The record of that job with its fields in reverse, behind one that nobody knows. -/
def shuffledJob : Value :=
  .map ((.text "owner", .map [(.nil, .array [.bool true])]) ::
    (sharedJobFields.map fun field => (.text field.1, field.2)).reverse)

/-- A reply with that job. -/
def shuffledReply : Value := .map [(.text "job", shuffledJob)]

theorem spells_strangeRefusal : Spells maxDepth strangeRefusalValue strangeRefusal := by
  have hhead : HeadForm (.map 2) [0xde, 0, 2] :=
    .sized 0xde 2 .map (by simp [sizedForms]) (by decide : 2 < wordCount 2)
  have hx : Spells 1022 (.text "x") [0xd9, 1, 0x78] :=
    spells_leaf (.sized 0xd9 1 .str (by simp [sizedForms]) (by decide : 1 < wordCount 1)) rfl
      (fun _ => .str [0x78]) 1022
  have hnil : Spells 1021 .nil [0xc0] := spells_whole (.fixed (by simp [fixedForms])) 1021
  have hlist : Spells 1022 (.array [.nil]) [0xdc, 0, 1, 0xc0] :=
    ⟨.array 1, [0xdc, 0, 1], _,
      .sized 0xdc 2 .array (by simp [sizedForms]) (by decide : 1 < wordCount 2),
      .array (.cons hnil .nil), rfl⟩
  have hreason : Spells 1022 (.text "reason") ([0xda, 0, 6] ++ Text.Utf8.encode "reason") :=
    spells_leaf (.sized 0xda 2 .str (by simp [sizedForms]) (by decide : 6 < wordCount 2)) rfl
      (fun _ => .str (Text.Utf8.encode "reason")) 1022
  have hno : Spells 1022 (.text "no") [0xa2, 0x6e, 0x6f] :=
    spells_leaf (.small 0xa0 0x20 .str (by simp [smallForms]) (by decide : 2 < 0x20)) rfl
      (fun _ => .str [0x6e, 0x6f]) 1022
  have hentries : List.Forall₂
      (fun (entry : Value × Value) (part : Bytes × Bytes) =>
        Spells 1022 entry.1 part.1 ∧ Spells 1022 entry.2 part.2)
      [(.text "x", .array [.nil]), (.text "reason", .text "no")]
      [([0xd9, 1, 0x78], [0xdc, 0, 1, 0xc0]),
        ([0xda, 0, 6] ++ Text.Utf8.encode "reason", [0xa2, 0x6e, 0x6f])] :=
    .cons ⟨hx, hlist⟩ (.cons ⟨hreason, hno⟩ .nil)
  exact ⟨.map 2, _, _, hhead, .map hentries, by decide⟩

theorem forms_strangeRefusal : Forms (⟨"no"⟩ : ErrorReply).fields strangeRefusalValue := by
  have hextra : ∀ entry ∈ [(Value.text "x", Value.array [.nil])],
      Value.Foreign ["reason"] entry.1 := by
    rw [List.forall_mem_singleton]
    exact .text (by decide)
  exact .map (.give rfl .nil) hextra (List.Perm.swap _ _ _)

theorem forms_shuffledReply : Forms (⟨some sharedJob⟩ : JobReply).fields shuffledReply := by
  have hgiven : Filled sharedJob.fields sharedJobFields :=
    .give rfl (.give rfl (.give rfl (.give rfl (.give rfl (.leave rfl (.give rfl .nil))))))
  have hextra : ∀ entry ∈ [(Value.text "owner", Value.map [(.nil, .array [.bool true])])],
      Value.Foreign Job.fieldNames entry.1 := by
    rw [List.forall_mem_singleton]
    exact .text (by decide)
  have hjob : Forms sharedJob.fields shuffledJob :=
    .map hgiven hextra
      ((List.perm_append_singleton _ _).symm.trans ((List.reverse_perm _).append_right _))
  exact .map (.give hjob .nil) (List.forall_mem_nil _) (List.Perm.refl _)

theorem payload_in_any_form_strange :
    (∀ envelope : Envelope, envelope.payload = strangeRefusal →
      envelope.decode? ErrorReply.ofValue? = some ⟨"no"⟩) ∧
    (∀ envelope : Envelope, envelope.payload = shuffledReply.encode →
      envelope.decode? JobReply.ofValue? = some ⟨some sharedJob⟩) ∧
    ReadsAs PullJob.ofValue? (.map [(.text "token", .text "a"), (.bin [0x74], .nil),
      (.text "token", .text "b")]) none := by
  obtain ⟨-, -, -, hpull, hreply, -, hrefusal⟩ := payload_in_any_form
  refine ⟨fun envelope hpayload => ?_, fun envelope hpayload => ?_, ?_⟩
  · exact hrefusal.decoded _ _ trivial forms_strangeRefusal envelope strangeRefusal []
      spells_strangeRefusal (by rw [hpayload, List.append_nil])
  · have hsized : ∀ job ∈ some sharedJob, job.Sized := by
      rintro job ⟨⟩
      decide
    have hwritable : shuffledReply.Writable maxDepth := by
      simp [shuffledReply, shuffledJob, sharedJobFields, Value.Writable, Value.WritableEntries,
        Value.WritableItems, Value.text, Value.list, maxDepth, Value.sizeBound, wordCount]
      decide
    exact hreply.decoded _ _ hsized forms_shuffledReply envelope _ [] (spells_encode hwritable)
      (by rw [hpayload, List.append_nil])
  · have htoken : Value.KeyOf ["token"] 0 (.text "token") := .text rfl
    exact hpull.refused _ (.twice ((List.Perm.swap _ _ _).cons _) htoken htoken)

end Link

end StressBatch
