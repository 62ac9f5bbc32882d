import Mabinogion.Bacnet.AtMostOnce
import Mabinogion.Bacnet.Server

/-!
# Replies carry the request's invoke id and service

What a response acknowledges is read off its bytes. One that is replayed names the request
that opened the transaction, which may be for another service.
-/

namespace Mabinogion.Bacnet.Server

open Segmentation Tsm AList BACnetServer TsmConfig Transducer
open Or (inl inr)

/-- The invoke id and service choice of a SimpleACK, ComplexACK or Error APDU. -/
def acknowledged : Bytes → Option (UInt8 × UInt8)
  | header :: invokeId :: rest =>
    if header >>> 4 = 2 ∨ header >>> 4 = 5 then rest[0]?.map fun service => (invokeId, service)
    else if header >>> 4 = 3 then
      -- a segmented ComplexACK has the sequence number and the window first
      if header &&& 0x08 = 0 then rest[0]?.map fun service => (invokeId, service)
      else rest[2]?.map fun service => (invokeId, service)
    else none
  | _ => none

/-- The APDU acknowledges the given request, if it acknowledges anything. -/
def AnswersFor (invokeId serviceChoice : UInt8) (apdu : Bytes) : Prop :=
  ∀ named, acknowledged apdu = some named → named = (invokeId, serviceChoice)

def responseApdu (request : Request) : ServiceResult → Option Bytes
  | .simpleAck => some [0x20, request.invokeId, request.serviceChoice]
  | .complexAck data => some (complexAckApdu request data)
  | .error errorClass errorCode =>
    some (buildErrorApdu request.invokeId request.serviceChoice errorClass errorCode)
  | .reject reason => some (buildRejectApdu request.invokeId reason)
  | .abort reason => some (buildAbortApdu request.invokeId reason)
  | .noResponse | .broadcast _ => none

variable (history : List (Nat × Request)) (tsm : ServerTsm) (request : Request)
variable (result : ServiceResult) (apdu : Bytes)

theorem acknowledged_response (built : responseApdu request result = some apdu) :
    acknowledged apdu = some (request.invokeId, request.serviceChoice) ∨ acknowledged apdu =
      none := by
  cases result with
  | simpleAck | complexAck | error =>
    rw [← Option.some.inj built]
    exact inl rfl
  | reject | abort =>
    rw [← Option.some.inj built]
    exact inr rfl
  | noResponse | broadcast => simp [responseApdu] at built

theorem response_apdu_answers (built : responseApdu request result = some apdu) :
    AnswersFor request.invokeId request.serviceChoice apdu := by
  intro named carried
  rcases acknowledged_response request result apdu built with own | none
  · rw [own] at carried
    exact (Option.some.inj carried).symm
  · simp [none] at carried

variable {apdu : Bytes}

theorem segment_apdus_answer {segments : List Bytes} {invokeId serviceChoice : UInt8}
    (member : apdu ∈ segmentApdus segments invokeId serviceChoice) :
    AnswersFor invokeId serviceChoice apdu := by
  intro named carried
  obtain ⟨index, bound, built⟩ := List.mem_mapIdx.mp member
  subst built
  by_cases more : index < segments.length - 1
  · simp only [more, decide_true] at carried
    exact (Option.some.inj carried).symm
  · simp only [more, decide_false] at carried
    exact (Option.some.inj carried).symm

section

variable {World : Type} (server : BACnetServer World) (request : Request)

/-- Everything `respond` can do: say nothing, never come back, or cache the
unsegmented APDU and send it whole or in segments. -/
theorem respond_cases (result : ServiceResult) : (responseApdu request result = none ∧
      server.respond request result = (some .none, server)) ∨
    server.respond request result = (none, server) ∨
    ∃ apdu response, responseApdu request result = some apdu ∧
      server.respond request result = server.complete request apdu response ∧
      (response = .single apdu request.source ∨ ∃ segments, response = .segmented segments
        request.source request.invokeId request.serviceChoice) := by
  cases result with
  | simpleAck | error | reject | abort => exact inr (inr ⟨_, _, rfl, rfl, inl rfl⟩)
  | complexAck data =>
    by_cases fits : 3 + data.length ≤ server.config.maxApduLength.toNat
    · refine inr (inr ⟨_, _, rfl, ?_, inl rfl⟩)
      simp only [respond, if_pos fits]
    · cases needed : server.segmentTransmitter.needsSegmentation data.length with
      | false =>
        refine inr (inr ⟨_, _, rfl, ?_, inl rfl⟩)
        simp only [respond, if_neg fits, needed, Bool.false_eq_true, if_false]
      | true =>
        cases cut : server.segmentTransmitter.segment data request.invokeId with
        | none =>
          refine inr (inl ?_)
          simp only [respond, if_neg fits, needed, if_true, cut]
        | some segments =>
          refine inr (inr ⟨_, _, rfl, ?_, inr ⟨segments.map Segment.data, rfl⟩⟩)
          simp only [respond, if_neg fits, needed, if_true, cut]
  | noResponse | broadcast => exact inl ⟨rfl, rfl⟩

/-- The transaction is open and the world is the one the handler leaves. -/
def BACnetServer.executing (now : Nat) : BACnetServer World :=
  { server with
    tsm := (server.tsm.beginTransaction now request.key request.serviceChoice).2
    world := (server.handled request).2 }

/-- Everything `dispatch_and_respond` can do, by the answer of the table. -/
theorem dispatch_cases (now : Nat) :
    (∃ cached, (server.tsm.beginTransaction now request.key request.serviceChoice).1 =
        .ok (some cached) ∧
      server.dispatchAndRespond request now = (some (.single cached request.source), { server with
          tsm := (server.tsm.beginTransaction now request.key request.serviceChoice).2 })) ∨
    ((server.tsm.beginTransaction now request.key request.serviceChoice).1 = .ok none ∧
      server.dispatchAndRespond request now =
        (server.executing request now).respond request (server.handled request).1) ∨
    ((server.tsm.beginTransaction now request.key request.serviceChoice).1 =
        .error .duplicateInProgress ∧
      server.dispatchAndRespond request now = (some .none, { server with
        tsm := (server.tsm.beginTransaction now request.key request.serviceChoice).2 })) ∨
    ((server.tsm.beginTransaction now request.key request.serviceChoice).1 = .error .atCapacity ∧
      server.dispatchAndRespond request now =
        (some (.single (buildAbortApdu request.invokeId .outOfResources) request.source),
        { server with
          tsm := (server.tsm.beginTransaction now request.key request.serviceChoice).2 })) := by
  unfold dispatchAndRespond executing
  rcases server.tsm.beginTransaction now request.key request.serviceChoice with ⟨answer, tsm⟩
  match answer with
  | .ok (some cached) => exact inl ⟨cached, rfl, rfl⟩
  | .ok none => exact inr (inl ⟨rfl, rfl⟩)
  | .error .duplicateInProgress => exact inr (inr (inl ⟨rfl, rfl⟩))
  | .error .atCapacity => exact inr (inr (inr ⟨rfl, rfl⟩))

end

/-- Every transaction was opened by a request, and its cached response answers that request. -/
def Recorded (history : List (Nat × Request)) (tsm : ServerTsm) : Prop :=
  ∀ key entry, tsm.transactions.lookup key = some entry →
    (∃ request, (entry.createdAt, request) ∈ history ∧ request.key = key ∧
      request.serviceChoice = entry.serviceChoice) ∧
    ∀ cached, entry.cachedResponse = some cached →
      AnswersFor key.invokeId entry.serviceChoice cached

theorem Recorded.mono {history later : List (Nat × Request)} {tsm : ServerTsm}
    (recorded : Recorded history tsm) (longer : ∀ timed ∈ history, timed ∈ later) :
    Recorded later tsm := by
  intro key entry present
  obtain ⟨⟨request, member, opener⟩, answers⟩ := recorded key entry present
  exact ⟨⟨request, longer _ member, opener⟩, answers⟩

theorem begin_recorded (now : Nat) (request : Request) (recorded : Recorded history tsm) :
    Recorded (history ++ [(now, request)])
      (tsm.beginTransaction now request.key request.serviceChoice).2 := by
  have kept : Recorded (history ++ [(now, request)]) tsm :=
    recorded.mono fun timed member => List.mem_append_left _ member
  intro key entry found
  rcases begin_cases tsm now request.key request.serviceChoice with
    ⟨old, present, _, result⟩ | ⟨pruned, prune, result⟩ | ⟨pruned, prune, _, _, result⟩
  · rw [result] at found
    by_cases own : key = request.key
    · subst own
      rw [lookup_insert, Option.some.injEq] at found
      subst found
      exact kept _ old present
    · rw [lookup_insert_ne own] at found
      exact kept key entry found
  · rw [result] at found
    exact kept key entry (prune.sound key entry found)
  · rw [result] at found
    change (pruned.transactions.insert request.key _).lookup key = some entry at found
    by_cases own : key = request.key
    · subst own
      rw [lookup_insert, Option.some.injEq] at found
      subst found
      exact ⟨⟨request, by simp, rfl, rfl⟩, by simp⟩
    · rw [lookup_insert_ne own] at found
      exact kept key entry (prune.sound key entry found)

theorem complete_recorded {key : TransactionKey} {opened : TransactionEntry}
    (recorded : Recorded history tsm) (present : tsm.transactions.lookup key = some opened)
    (answers : AnswersFor key.invokeId opened.serviceChoice apdu) :
    Recorded history (tsm.completeTransaction key apdu).2 := by
  intro other entry found
  rw [(complete_transaction_state tsm key apdu).1] at found
  simp only [ServerTsm.cacheResponse, present] at found
  by_cases own : other = key
  · subst own
    rw [lookup_insert, Option.some.injEq] at found
    subst found
    refine ⟨(recorded other opened present).1, ?_⟩
    intro cached same
    rw [← Option.some.inj same]
    exact answers
  · rw [lookup_insert_ne own] at found
    exact recorded other entry found

section

variable {World : Type} (tsmConfig : TsmConfig) (config : ServerConfig)

/-- The invariant of a run, with the requests processed so far. -/
structure Serving (history : List (Nat × Request)) (server : BACnetServer World) : Prop where
  configured : server.config = config
  transmitter : server.segmentTransmitter = ⟨config.maxApduLength.toNat - 5⟩
  sound : Sound tsmConfig server.tsm
  recorded : Recorded history server.tsm

variable (history : List (Nat × Request)) (services : ServiceRegistry World) (world : World)
variable (requests : List (Nat × Request)) (server : BACnetServer World) (now : Nat)
variable (request : Request)

theorem executing_open {now : Nat} (sound : Sound tsmConfig server.tsm)
    (opened : (server.tsm.beginTransaction now request.key request.serviceChoice).1 = .ok none) :
    (server.executing request now).tsm.transactions.lookup request.key =
      some ⟨now, request.serviceChoice, none, 0, .awaitingResponse⟩ :=
  begin_opens tsmConfig sound opened

theorem step_serving (serving : Serving tsmConfig config history server) :
    Serving tsmConfig config (history ++ [(now, request)]) (server.step (now, request)).2 := by
  obtain ⟨configured, transmitter, sound, recorded⟩ := serving
  have begunSound := begin_sound tsmConfig now request.key request.serviceChoice sound
  have begunRecorded := begin_recorded history server.tsm now request recorded
  change Serving tsmConfig config _ (server.dispatchAndRespond request now).2
  rcases dispatch_cases server request now with
    ⟨cached, _, result⟩ | ⟨opened, result⟩ | ⟨_, result⟩ | ⟨_, result⟩
  · rw [result]
    exact ⟨configured, transmitter, begunSound, begunRecorded⟩
  · have present := executing_open tsmConfig server request sound opened
    rw [result]
    rcases respond_cases (server.executing request now) request (server.handled request).1 with
      ⟨_, silent⟩ | lost | ⟨apdu, response, built, completes, _⟩
    · rw [silent]
      exact ⟨configured, transmitter, begunSound, begunRecorded⟩
    · rw [lost]
      exact ⟨configured, transmitter, begunSound, begunRecorded⟩
    · rw [completes]
      exact ⟨configured, transmitter, complete_sound tsmConfig request.key apdu begunSound,
        complete_recorded _ _ begunRecorded present (response_apdu_answers request _ apdu built)⟩
  · rw [result]
    exact ⟨configured, transmitter, begunSound, begunRecorded⟩
  · rw [result]
    exact ⟨configured, transmitter, begunSound, begunRecorded⟩

theorem run_serving (serving : Serving tsmConfig config history server) :
    Serving tsmConfig config (history ++ requests) (final step server requests) := by
  induction requests generalizing history server with
  | nil =>
    rw [List.append_nil]
    exact serving
  | cons timed requests ih =>
    rw [final_cons, List.append_cons]
    exact ih _ _ (step_serving tsmConfig config history server timed.1 timed.2 serving)

theorem new_serving : Serving tsmConfig config [] (new config tsmConfig services world) where
  configured := rfl
  transmitter := rfl
  sound := with_config_sound tsmConfig
  recorded := by
    intro key entry present
    simp [new, ServerTsm.withConfig] at present

def served (services : ServiceRegistry World) (world : World)
    (requests : List (Nat × Request)) : BACnetServer World :=
  final step (new config tsmConfig services world) requests

theorem served_serving :
    Serving tsmConfig config requests (served tsmConfig config services world requests) :=
  run_serving tsmConfig config [] requests _ (new_serving tsmConfig config services world)

theorem respond_answers {result : ServiceResult} {apdus : List Bytes}
    (sent : (server.respond request result).1.map ProcessedResponse.apdus = some apdus)
    (member : apdu ∈ apdus) :
    AnswersFor request.invokeId request.serviceChoice apdu := by
  rcases respond_cases server request result with
    ⟨_, silent⟩ | lost | ⟨whole, response, built, completes, shape⟩
  · rw [silent] at sent
    rw [← Option.some.inj sent] at member
    simp [ProcessedResponse.apdus] at member
  · simp [lost] at sent
  · rw [completes] at sent
    rw [← Option.some.inj sent] at member
    split_ifs at member
    · rcases shape with rfl | ⟨segments, rfl⟩
      · rw [List.mem_singleton.mp member]
        exact response_apdu_answers request result whole built
      · exact segment_apdus_answer member
    · simp [ProcessedResponse.apdus] at member

/-- An acknowledgement carries the request's invoke id, and its service choice or that of an earlier
request with the same source and invoke id in the window, of which the table replays the response. -/
theorem answered_for_own_service (services : ServiceRegistry World) (world : World)
    (before : List (Nat × Request)) (now : Nat) (request : Request) (apdus : List Bytes)
    (sent : ((served tsmConfig config services world before).step (now, request)).1 = some apdus)
    (apdu : Bytes) (member : apdu ∈ apdus) (invokeId serviceChoice : UInt8)
    (carries : acknowledged apdu = some (invokeId, serviceChoice)) :
    invokeId = request.invokeId ∧ (serviceChoice = request.serviceChoice ∨
        ∃ opened original, (opened, original) ∈ before ∧ original.source = request.source ∧
          original.invokeId = request.invokeId ∧ original.serviceChoice = serviceChoice ∧
          now - opened ≤ tsmConfig.duplicateWindow ∧
          ((served tsmConfig config services world before).tsm.beginTransaction now request.key
            request.serviceChoice).1 = .ok (some apdu)) := by
  have serving := served_serving tsmConfig config services world before
  generalize served tsmConfig config services world before = server at sent serving ⊢
  change (server.dispatchAndRespond request now).1.map ProcessedResponse.apdus = some apdus at sent
  rcases dispatch_cases server request now with
    ⟨cached, replayed, result⟩ | ⟨_, result⟩ | ⟨_, result⟩ | ⟨_, result⟩
  · rw [result] at sent
    rw [← Option.some.inj sent] at member
    rw [List.mem_singleton.mp member] at carries ⊢
    obtain ⟨entry, present, inWindow, response⟩ := begin_replays tsmConfig serving.sound replayed
    obtain ⟨⟨original, opener, sameKey, service⟩, answers⟩ :=
      serving.recorded request.key entry present
    have named := answers cached response _ carries
    rw [Prod.mk.injEq] at named
    rw [Request.key, Request.key, TransactionKey.mk.injEq] at sameKey
    exact ⟨named.1, inr ⟨entry.createdAt, original, opener, sameKey.1, sameKey.2,
      service.trans named.2.symm, inWindow, replayed⟩⟩
  · rw [result] at sent
    have named := respond_answers _ request sent member _ carries
    rw [Prod.mk.injEq] at named
    exact ⟨named.1, inl named.2⟩
  · rw [result] at sent
    rw [← Option.some.inj sent] at member
    simp [ProcessedResponse.apdus] at member
  · rw [result] at sent
    rw [← Option.some.inj sent] at member
    rw [List.mem_singleton.mp member] at carries
    have none : acknowledged (buildAbortApdu request.invokeId .outOfResources) = none := rfl
    simp [none] at carries

end

/-- A server that answers ReadProperty with one byte and accepts every
WriteProperty. -/
def readWriteServices : ServiceRegistry Unit where
  confirmedHandlers :=
    ((∅ : KeyedTable.Table UInt8 (ConfirmedServiceHandler Unit)).insert 12
      ⟨0, fun _ _ world => (.complexAck [1], world)⟩).insert 15
      ⟨0, fun _ _ world => (.simpleAck, world)⟩

theorem write_answered_for_write : let read : Request := ⟨.v4 2130706433 47808, 1, 12, []⟩
    let write : Request := ⟨.v4 2130706433 47808, 2, 15, []⟩
    ((served default ⟨1, 480⟩ readWriteServices () [(0, read)]).step (1, write)).1 =
        some [[0x20, 2, 15]] ∧ (2 : UInt8) = write.invokeId ∧
      ((15 : UInt8) = write.serviceChoice ∨
        ∃ opened original, (opened, original) ∈ [(0, read)] ∧ original.source = write.source ∧
          original.invokeId = write.invokeId ∧ original.serviceChoice = 15 ∧
          1 - opened ≤ default.duplicateWindow ∧
          ((served default ⟨1, 480⟩ readWriteServices () [(0, read)]).tsm.beginTransaction 1
            write.key write.serviceChoice).1 = .ok (some [0x20, 2, 15])) := by
  intro read write
  have sent : ((served default ⟨1, 480⟩ readWriteServices () [(0, read)]).step
      (1, write)).1 = some [[0x20, 2, 15]] := by decide
  exact ⟨sent, answered_for_own_service default ⟨1, 480⟩ readWriteServices ()
    [(0, read)] 1 write _ sent [0x20, 2, 15] (List.mem_singleton_self _) 2 15 rfl⟩

/-- A write that reuses the invoke id of a read is answered with the read's
ComplexACK and is not executed. -/
theorem reused_invoke_id_answered_for_read : outputs step
      (new ⟨1, 480⟩ default readWriteServices ())
      [(0, ⟨.v4 2130706433 47808, 1, 12, []⟩), (1, ⟨.v4 2130706433 47808, 1, 15, []⟩)] =
      [some [[0x30, 1, 12, 1]], some [[0x30, 1, 12, 1]]] := by
  decide

end Mabinogion.Bacnet.Server
