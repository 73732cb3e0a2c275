import ServiceBus.Proofs.Wire.Members
import ServiceBus.Proofs.Wire.Text
import ServiceBus.Wire.Event
import ServiceBus.Wire.Exchange
import ServiceBus.Wire.Progress

set_option autoImplicit false

/-! # What is written is read back

For each part of a document what is written is read as what it was written from, and for each
record from its parts: the form of a record reads every member that the writer writes
(`readExchange_writeExchange` and its like). Points in time have to be in years of four digits,
as no other year is written in a way that all readers take. -/

namespace ServiceBus.Wire

/-! ## Leaves -/

/-- Each value is the first with its word. -/
class FaithfulWords (α : Type) [Vocabulary α] : Prop where
  ofWord?_word : ∀ a : α, Vocabulary.ofWord? (word a) = some a

instance : FaithfulWords Role := ⟨by rintro (_ | _) <;> rfl⟩
instance : FaithfulWords Scope := ⟨by rintro (_ | _) <;> rfl⟩
instance : FaithfulWords Status := ⟨by rintro (_ | _ | _) <;> rfl⟩
instance : FaithfulWords Pattern := ⟨by rintro (_ | _ | _) <;> rfl⟩
instance : FaithfulWords ParticipantRole := ⟨by rintro (_ | _) <;> rfl⟩
instance : FaithfulWords RelationKind := ⟨by rintro (_ | _ | _) <;> rfl⟩
instance : FaithfulWords NotificationKind := ⟨by rintro (_ | _) <;> rfl⟩
instance : FaithfulWords LifecycleState := ⟨by rintro (_ | _ | _ | _ | _ | _ | _) <;> rfl⟩
instance : FaithfulWords FailureType := ⟨by rintro (_ | _) <;> rfl⟩

theorem readWordOf_word {α : Type} [Vocabulary α] [FaithfulWords α] (a : α) :
    readWordOf α (word a) = .ok a := by
  rw [readWordOf, FaithfulWords.ofWord?_word]

theorem readWord_writeWord {α : Type} [Vocabulary α] [FaithfulWords α] (a : α) :
    readWord (writeWord a) = .ok a :=
  readWordOf_word a

theorem readFormatted_string {α : Type} {ofText? : String → Option α} {s : String} {a : α}
    (h : ofText? s = some a) (expected : String) :
    readFormatted expected ofText? (.string s) = .ok a := by
  rw [readFormatted, readTextOf]
  dsimp only
  rw [h]

theorem readUuid_writeUuid (u : Uuid) : readUuid (writeUuid u) = .ok u :=
  readFormatted_string u.ofText?_text _

theorem readTimestamp_writeTimestamp {t : Timestamp} (h : t.FourDigitYear) :
    readTimestamp (writeTimestamp t) = .ok t :=
  readFormatted_string (Timestamp.ofText?_text h) _

section Values

variable {α : Type} {read : Json → Except DecodeError α} {write : α → Json}

theorem readOption_of_ne_null {v : Json} (h : v ≠ .null) :
    readOption read v = (read v).map some := by
  cases v with
  | null => exact absurd rfl h
  | _ => rfl

/-- A value that may be absent is written as null when it is. -/
theorem readOption_writeOption {o : Option α} (hread : ∀ a ∈ o, read (write a) = .ok a)
    (hnull : ∀ a, write a ≠ .null) : readOption read (writeOption write o) = .ok o := by
  cases o with
  | none => rfl
  | some a =>
      rw [writeOption, readOption_of_ne_null (hnull a), hread a rfl]
      rfl

theorem readOption_ofText? (o : Option String) : readOption readText (.ofText? o) = .ok o := by
  cases o <;> rfl

theorem readAll_map {items : List α} (h : ∀ a ∈ items, read (write a) = .ok a) :
    readAll read (items.map write) = .ok items := by
  induction items with
  | nil => rfl
  | cons a items ih =>
      obtain ⟨ha, hitems⟩ := List.forall_mem_cons.mp h
      rw [List.map_cons, readAll, ha]
      dsimp only
      rw [ih hitems]
      rfl

/-- The items of a list are written one after the other. -/
theorem readList_map {items : List α} (h : ∀ a ∈ items, read (write a) = .ok a) :
    readList read (.array (items.map write)) = .ok items :=
  readAll_map h

end Values

theorem readTexts_map (texts : List String) :
    readList readText (.array (texts.map .string)) = .ok texts :=
  readList_map fun _ _ => rfl

theorem readNames_writeNames (names : NameSet) : readNames (writeNames names) = .ok names := by
  have hkeys := readTexts_map names.keys
  rw [readNames, writeNames, hkeys]
  exact congrArg Except.ok (Dict.ofNames_keys names)

theorem readEntries_map (entries : List (String × String)) :
    readEntries (entries.map fun e => (e.1, .string e.2)) = .ok entries := by
  induction entries with
  | nil => rfl
  | cons e entries ih =>
      show (readEntries (entries.map fun e => (e.1, .string e.2))).map _ = _
      rw [ih]
      rfl

theorem readDict_writeDict (d : Dict String) : readDict (writeDict d) = .ok d := by
  show (readEntries (d.entries.map fun e => (e.1, .string e.2))).map Dict.ofList = _
  rw [readEntries_map]
  exact congrArg Except.ok d.ofList_entries

/-! ## Records

Each member of a form is found under its name. -/

open Form (reads_required reads_optional reads_defaulted)

theorem readAgreedPolicy_writeAgreedPolicy (p : AgreedPolicy) :
    readAgreedPolicy (writeAgreedPolicy p) = .ok p := by
  obtain ⟨policyId, requireAuthentication, requiredRoles, transportAssertions⟩ := p
  refine Form.Reads.read ?_ fun name _ => length_contents_le_one _ (by simp)
  iterate 3 refine .seq ?_ ?_
  refine .map ?_ _
  · exact reads_required rfl rfl
  · exact reads_defaulted rfl rfl
  · exact reads_defaulted rfl (readNames_writeNames requiredRoles)
  · exact reads_defaulted rfl (readTexts_map transportAssertions)

theorem readEndpointReference_writeEndpointReference (r : EndpointReference) :
    readEndpointReference (writeEndpointReference r) = .ok r := by
  obtain ⟨address, serviceId, correlationId, faultCorrelationId, referenceParameters⟩ := r
  refine Form.Reads.read ?_ fun name _ => length_contents_le_one _ (by simp)
  iterate 4 refine .seq ?_ ?_
  refine .map ?_ _
  · exact reads_required rfl rfl
  · exact reads_required rfl rfl
  · exact reads_optional rfl (readOption_ofText? correlationId)
  · exact reads_optional rfl (readOption_ofText? faultCorrelationId)
  · exact reads_defaulted rfl (readDict_writeDict referenceParameters)

theorem readRelation_writeRelation {r : Relation} (h : r.recordedAt.FourDigitYear) :
    readRelation (writeRelation r) = .ok r := by
  obtain ⟨messageId, kind, recordedAt⟩ := r
  refine Form.Reads.read ?_ fun name _ => length_contents_le_one _ (by simp)
  iterate 2 refine .seq ?_ ?_
  refine .map ?_ _
  · exact reads_required rfl (readUuid_writeUuid messageId)
  · exact reads_required rfl (readWord_writeWord kind)
  · exact reads_required rfl (readTimestamp_writeTimestamp h)

end ServiceBus.Wire

namespace ServiceBus

/-- All points in time of the context are in years of four digits. -/
structure CallContext.FourDigitYears (c : CallContext) : Prop where
  createdAt : c.createdAt.FourDigitYear
  relatedAt : ∀ t ∈ c.relatedAt, t.FourDigitYear
  relations : ∀ r ∈ c.relations, r.recordedAt.FourDigitYear

end ServiceBus

namespace ServiceBus.Wire

open Form (reads_required reads_optional reads_defaulted)

theorem readCallContext_writeCallContext {c : CallContext} (h : c.FourDigitYears) :
    readCallContext (writeCallContext c) = .ok c := by
  have hpolicy : readOption readAgreedPolicy (writeOption writeAgreedPolicy c.agreedPolicy) = _ :=
    readOption_writeOption (fun p _ => readAgreedPolicy_writeAgreedPolicy p) fun _ => nofun
  have hreplyTo : readOption readEndpointReference (writeOption writeEndpointReference c.replyTo) =
      _ :=
    readOption_writeOption (fun r _ => readEndpointReference_writeEndpointReference r)
      fun _ => nofun
  have hrelatedAt : readOption readTimestamp (writeOption writeTimestamp c.relatedAt) = _ :=
    readOption_writeOption (fun t ht => readTimestamp_writeTimestamp (h.relatedAt t ht))
      fun _ => nofun
  have hrelations : readList readRelation (.array (c.relations.map writeRelation)) = _ :=
    readList_map fun r hr => readRelation_writeRelation (h.relations r hr)
  have hcreatedAt := readTimestamp_writeTimestamp h.createdAt
  obtain ⟨messageId, createdAt, relations, correlationId, faultCorrelationId, relatedAt,
    agreedPolicy, replyTo, referenceParameters⟩ := c
  refine Form.Reads.read ?_ fun name _ => length_contents_le_one _ (by simp)
  iterate 8 refine .seq ?_ ?_
  refine .map ?_ _
  · exact reads_required rfl (readUuid_writeUuid messageId)
  · exact reads_required rfl hcreatedAt
  · exact reads_required rfl hrelations
  · exact reads_optional rfl (readOption_ofText? correlationId)
  · exact reads_optional rfl (readOption_ofText? faultCorrelationId)
  · exact reads_optional rfl hrelatedAt
  · exact reads_optional rfl hpolicy
  · exact reads_optional rfl hreplyTo
  · exact reads_defaulted rfl (readDict_writeDict referenceParameters)

theorem readMessage_writeMessage (m : Message) : readMessage (writeMessage m) = .ok m := by
  obtain ⟨body, headers, mustUnderstand⟩ := m
  refine Form.Reads.read ?_ fun name _ => length_contents_le_one _ (by simp)
  iterate 2 refine .seq ?_ ?_
  refine .map ?_ _
  · exact reads_required rfl rfl
  · exact reads_required rfl (readDict_writeDict headers)
  · exact reads_defaulted rfl (readNames_writeNames mustUnderstand)

theorem readFailure_writeFailure (f : ExchangeFailure) : readFailure (writeFailure f) = .ok f := by
  cases f <;> rfl

theorem readExchange_writeExchange {e : Exchange} (h : e.context.FourDigitYears) :
    readExchange (writeExchange e) = .ok e := by
  have hmessage : ∀ m : Option Message, readOption readMessage (writeOption writeMessage m) = _ :=
    fun m => readOption_writeOption (fun m _ => readMessage_writeMessage m) fun _ => nofun
  have hfailure : readOption readFailure (writeOption writeFailure e.failure) = _ :=
    readOption_writeOption (fun f _ => readFailure_writeFailure f) fun f => by cases f <;> nofun
  have hcontext := readCallContext_writeCallContext h
  obtain ⟨id, pattern, status, serviceId, operation, target, context, input, output, fault,
    failure⟩ := e
  refine Form.Reads.read ?_ fun name _ => length_contents_le_one _ (by simp)
  iterate 10 refine .seq ?_ ?_
  refine .map ?_ _
  · exact reads_required rfl (readUuid_writeUuid id)
  · exact reads_required rfl (readWord_writeWord pattern)
  · exact reads_required rfl (readWord_writeWord status)
  · exact reads_required rfl rfl
  · exact reads_required rfl rfl
  · exact reads_optional rfl (readOption_ofText? target)
  · exact reads_required rfl hcontext
  · exact reads_optional rfl (hmessage input)
  · exact reads_optional rfl (hmessage output)
  · exact reads_optional rfl (hmessage fault)
  · exact reads_optional rfl hfailure

theorem readEvent_writeEvent {e : Event} (h : e.recordedAt.FourDigitYear) :
    readEvent (writeEvent e) = .ok e := by
  obtain ⟨kind, state, exchangeId, messageId, correlationId, serviceId, operation,
    participantRole, role, scope, reason, recordedAt⟩ := e
  refine Form.Reads.read ?_ fun name _ => length_contents_le_one _ (by simp)
  iterate 11 refine .seq ?_ ?_
  refine .map ?_ _
  · exact reads_required rfl (readWord_writeWord kind)
  · exact reads_required rfl (readWord_writeWord state)
  · exact reads_required rfl (readUuid_writeUuid exchangeId)
  · exact reads_required rfl (readUuid_writeUuid messageId)
  · exact reads_optional rfl (readOption_ofText? correlationId)
  · exact reads_required rfl rfl
  · exact reads_required rfl rfl
  · exact reads_required rfl (readWord_writeWord participantRole)
  · exact reads_required rfl (readWord_writeWord role)
  · exact reads_required rfl (readWord_writeWord scope)
  · exact reads_optional rfl (readOption_ofText? reason)
  · exact reads_required rfl (readTimestamp_writeTimestamp h)

theorem readProgress_writeProgress (p : Failover.Progress) :
    readProgress (writeProgress p) = .ok p := by
  cases p <;> rfl

end ServiceBus.Wire
