import ServiceBus.Json.Reader
import ServiceBus.Proofs.Command.Waiting
import ServiceBus.Proofs.Failover.Trials
import ServiceBus.Proofs.Fault.Document

set_option autoImplicit false

/-! # Fault documents in answers

A candidate may answer with a fault document in either of the slots for an answer. Whichever it
is, the answer ends the call. But the call takes for a fault only what is in the fault slot, and
reads a document in the other slot as if it were an output, while a caller that waits for a single
endpoint gets the failure that the document reports, out of either slot (`invoke_of_fault`). -/

namespace ServiceBus.Failover

variable {σ α : Type}

/-- An attempt that has not failed has an answer that is not marked as failed. -/
theorem isError_of_failure? {a : Attempt} (h : a.failure? = none) :
    a.answer.exchange.isError = false := by
  rw [Attempt.failure?] at h
  split at h
  · cases h
  · cases h
  · split at h
    · cases h
    · next he => exact Bool.not_eq_true _ ▸ he

namespace Controller

variable {c : Controller σ} (o : Operation) (payload : Message)

theorem failure?_trialOf (candidate : Candidate σ) (supply : Supply)
    (made : Except BusError Exchange × σ) {a : Attempt}
    (h : (c.trialOf payload candidate supply made).1 = .answered a) : a.failure? = none := by
  obtain ⟨result, parties⟩ := made
  cases result with
  | error e => cases h
  | ok e =>
      unfold trialOf at h
      dsimp only at h
      split at h
      · next hnone =>
          cases h
          exact hnone
      · cases h

/-- What answers has not failed. -/
theorem failure?_of_answered (rest : List (Candidate σ)) (supply : Supply) (parties : σ)
    {a : Attempt} (h : .answered a ∈ c.trials o payload rest supply parties) :
    a.failure? = none := by
  induction rest generalizing supply parties with
  | nil => cases h
  | cons candidate rest ih =>
      have htrial : (c.trial o payload candidate supply parties).1 = .answered a →
          a.failure? = none := failure?_trialOf payload candidate _ _
      rw [trials] at h
      generalize c.trial o payload candidate supply parties = x at h htrial
      obtain ⟨t, supply, parties⟩ := x
      cases t with
      | answered b =>
          rw [List.mem_singleton] at h
          exact htrial h.symm
      | unmade _ | failed _ _ =>
          -- the trial that has just been made is none that answered
          rcases List.mem_cons.mp h with h | h
          · cases h
          · exact ih supply parties h

/-- What a call makes of an answer that is a fault document, and what a caller that waits makes of
the same answer. -/
theorem readAnswer_of_fault (decode : String → Except String α) (operation : String) {e : Exchange}
    {message : Message} (hm : e.response = some message) {d : FaultDocument}
    (hd : FaultDocument.ofText? message.body = some d) :
    readAnswer decode operation e.output e.fault =
      if e.fault.isSome then .error (.providerFault operation d.reason)
      else (decode message.body).mapError BusError.ofSerialization := by
  cases hfault : e.fault with
  | some fault =>
      obtain rfl : fault = message := by simpa [Exchange.response, hfault] using hm
      rw [readAnswer, hd]
      rfl
  | none =>
      have hout : e.output = some message := by simpa [Exchange.response, hfault] using hm
      rw [hout, readAnswer]
      rfl

/-- How a call ends whose first answer is a fault document, in one of the slots for an answer. No
other candidate is tried. The call ends with the fault of the provider exactly if the document came
in the fault slot; from the other slot it is read as an output, and the call passes on what the
reader complains about. A command that waits for the same answer gets the failure that the document
reports, in either case. -/
theorem invoke_of_fault (hne : c.candidates ≠ []) (decode : String → Except String α)
    (request : Json) (supply : Supply) (parties : σ) (before : List Trial) (a : Attempt)
    (hts : c.trials o (Message.ofJson request) c.candidates supply parties =
      before ++ [.answered a])
    (hbefore : ∀ t ∈ before, t.isFailure = true) (message : Message)
    (hm : a.answer.exchange.response = some message) (d : FaultDocument)
    (hd : FaultDocument.ofText? message.body = some d) :
    let x := c.invoke decode o (.ok request) supply parties
    x.2.attempts = before.filterMap Trial.attempt? ++ [a] ∧
      (x.1 = .error (.providerFault o.name d.reason) ↔ a.answer.exchange.fault.isSome = true) ∧
      (a.answer.exchange.fault = none →
        x.1 = (decode message.body).mapError fun complaint =>
          .infrastructure ("JSON serialization error: " ++ complaint)) ∧
      ∀ {τ : Type} (env : Environment τ) (command : Command) (e : Exchange) (bus : Bus τ)
        (drawn : Supply) (sent : Exchange) (limit : Nat) (answer : Answer),
        command.ready = .ok (.sender, .request, e) → command.variant = .requestResponse true →
        .sendSync sent limit answer ∈
          callsOf [.sendSync] (command.callBlocking env bus drawn).trace →
        answer.failure? limit = none → answer.exchange = a.answer.exchange →
        (command.callBlocking env bus drawn).result = .error (.remote d.kind d.reason) := by
  intro x
  have hactive : a.answer.exchange.isError = false :=
    isError_of_failure? (failure?_of_answered o _ _ supply parties
      (hts ▸ List.mem_append_right before (List.mem_singleton_self _)))
  obtain ⟨hresult, hattempts⟩ := invoke_of_answered o hne decode request supply parties hts hbefore
  have hx : x.1 = _ := hresult.trans (readAnswer_of_fault decode o.name hm hd)
  refine ⟨hattempts, ?_, fun hnone => ?_, ?_⟩
  · rw [hx]
    cases a.answer.exchange.fault with
    | some fault => exact iff_of_true rfl rfl
    | none =>
        refine iff_of_false ?_ fun h => nomatch h
        cases decode message.body <;> exact fun h => nomatch h
  · rw [hx, hnone]
    rfl
  · intro τ env command e bus drawn sent limit answer hready hvariant hsent hok heq
    have hi : answer.exchange.inbound .response = some message := by
      rw [heq, Exchange.inbound, hm]
      rfl
    have hf : BusError.ofFault? message.body = some (.remote d.kind d.reason) := by
      rw [BusError.ofFault?, hd]
      rfl
    exact Command.callBlocking_of_report env hready hvariant bus drawn hsent hok (heq ▸ hactive) hi hf

end Controller

section Warehouses

open Rehearsal

/-- The fault document of a warehouse that does not know the article. -/
def unknownArticle : FaultDocument := .new .generic "unknown article"

theorem ofText?_unknownArticle :
    FaultDocument.ofText? unknownArticle.render = some unknownArticle := by
  have hread := unknownArticle.ofChars?_chars not_elementMark_infix_nil not_elementMark_infix_nil
  rwa [List.nil_append, List.append_nil, ← String.toList_ofList (l := unknownArticle.chars)] at hread

/-- A warehouse that answers as the change says. -/
def answering (change : Change) : CandidateScript :=
  { endpoint := "mem://a", outcomes := [{ change := change }] }

/-- The question that the first warehouse is asked. -/
def question : Exchange :=
  let supply := Supply.counting.nextId.2
  { exchangeFor "mem://a" lookup
      { messageId := Supply.counting.nextId.1, createdAt := supply.now.1 } supply.now.2.nextId.1 with
    input := some (Message.ofJson (.string "book")) }

/-- What comes of asking two warehouses, the first of which answers as the change says. -/
def asked (change : Change) : Except BusError Json × Run (List (List Outcome)) :=
  (warehouses (answering change)).invoke readStock lookup (.ok (.string "book")) .counting
    (Rehearsal.candidates [answering change, stocked]).2

/-- Put the same question to a single warehouse, and wait for the answer. -/
def questionCall : Command :=
  { variant := .requestResponse true, role := some .sender, scope := some .request
    exchange := some question }

/-- What comes of this when the warehouse answers as the change says. -/
def awaited (change : Change) : Execution Channel Message :=
  questionCall.callBlocking (environment ∅ .permissive)
    { parties := { sendSync := [{ change := change }] } } .counting

/-- The answer to the question. -/
def answerTo (change : Change) : Answer := ⟨change.apply question, .after 0 none⟩

/-- Whatever the warehouse answers, it is asked the question. -/
theorem sendSync_awaited (change : Change) :
    .sendSync question 30000 (answerTo change) ∈ callsOf [.sendSync] (awaited change).trace := by
  let env := environment ∅ .permissive
  let bus : Bus Channel := { parties := { sendSync := [{ change := change }] } }
  let l := questionCall.opening .sender .request question bus .counting
  have htrace : (awaited change).trace = (questionCall.course env .sender .request l).2.trace :=
    Command.execute_trace env rfl _ _
  have hwork : Command.work env questionCall.variant .sender .request l =
      Work.takeResponse env true (Work.awaiting env l) :=
    Work.callAndWait_of_sent env (l := l) rfl rfl
  rw [htrace, Command.callsOf_course env questionCall _ _ _ (by decide) (by decide), hwork,
    (Work.does_takeResponse_sync env _).callsOf (by decide)]
  exact List.mem_singleton_self _

/-- The answer of a warehouse with a fault document in the fault slot. -/
def refusal : Change := { fault := some (some { body := unknownArticle.render }) }

/-- The answer of a warehouse with a fault document in the slot for the output. -/
def misplaced : Change := { output := some (some { body := unknownArticle.render }) }

/-- From the fault slot, both make the document a failure. -/
theorem invoke_of_fault_refusal :
    (warehouses (answering refusal)).candidates ≠ [] ∧
      (asked refusal).1 = .error (.providerFault "lookup" "unknown article") ∧
      (asked refusal).2.attempts.map (·.endpoint) = ["mem://a"] ∧
      (awaited refusal).result = .error (.remote .generic "unknown article") := by
  have hne : (warehouses (answering refusal)).candidates ≠ [] := List.cons_ne_nil _ _
  obtain ⟨hattempts, hfault, -, hawaited⟩ := Controller.invoke_of_fault lookup hne readStock
    (.string "book") .counting (Rehearsal.candidates [answering refusal, stocked]).2 [] _ rfl
    (List.forall_mem_nil _) { body := unknownArticle.render } rfl unknownArticle
    ofText?_unknownArticle
  refine ⟨hne, hfault.mpr rfl, ?_, ?_⟩
  · rw [asked, hattempts]
    rfl
  · exact hawaited _ questionCall question _ _ question 30000 (answerTo refusal) rfl rfl
      (sendSync_awaited refusal) rfl rfl

/-- From the slot for the output, a caller that waits for a single warehouse gets the same failure,
and the call with several candidates takes the document for an output that it cannot read. -/
theorem asked_misplaced :
    (misplaced.apply question).response = some { body := unknownArticle.render } ∧
      FaultDocument.ofText? unknownArticle.render = some unknownArticle ∧
      (awaited misplaced).result = .error (.remote .generic "unknown article") ∧
      (asked misplaced).1 =
        .error (.infrastructure "JSON serialization error: expected value at line 1 column 1") ∧
      (asked misplaced).2.attempts.map (·.answer) = [answerTo misplaced] := by
  have hresponse : (answerTo misplaced).exchange.response =
      some { body := unknownArticle.render } := rfl
  have hfault : BusError.ofFault? unknownArticle.render =
      some (.remote .generic "unknown article") := by
    rw [BusError.ofFault?, ofText?_unknownArticle]
    rfl
  have hparse : Json.parse? unknownArticle.render = none := by
    rw [← Option.isNone_iff_eq_none]
    decide +kernel
  have hread : readStock unknownArticle.render = .error "expected value at line 1 column 1" := by
    rw [readStock, reader, hparse]
  have hne : (warehouses (answering misplaced)).candidates ≠ [] := List.cons_ne_nil _ _
  have hts : (warehouses (answering misplaced)).trials lookup (Message.ofJson (.string "book"))
      (warehouses (answering misplaced)).candidates .counting
        (Rehearsal.candidates [answering misplaced, stocked]).2 =
      [] ++ [.answered ⟨"mem://a", question, 100, answerTo misplaced⟩] := rfl
  obtain ⟨hasked, hattempts⟩ := Controller.invoke_of_answered lookup hne readStock
    (.string "book") .counting (Rehearsal.candidates [answering misplaced, stocked]).2 hts
    (List.forall_mem_nil _)
  refine ⟨hresponse, ofText?_unknownArticle, ?_, ?_, ?_⟩
  · exact Command.callBlocking_of_report _ rfl rfl _ _ (sendSync_awaited misplaced) rfl rfl rfl hfault
  · rw [asked, hasked, Controller.readAnswer_of_fault _ _ hresponse ofText?_unknownArticle, hread]
    rfl
  · rw [asked, hattempts]
    rfl

end Warehouses

end ServiceBus.Failover
