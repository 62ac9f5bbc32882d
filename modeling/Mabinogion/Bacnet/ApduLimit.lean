import Mabinogion.Bacnet.SegmentRoundTrip
import Mabinogion.Bacnet.ServerReplies

/-!
# The APDU length limit and retransmissions

A response that does not fit is cut into segments, but the transaction table caches it
whole: the first answer keeps the limit, the replay of a segmented one does not.
-/

namespace Mabinogion.Bacnet.Server

open Segmentation Tsm Transducer ApduEncoder BACnetServer TsmConfig
open List (length_append)

def Oversized (config : ServerConfig) : ServiceResult → Prop
  | .complexAck data => config.maxApduLength.toNat < 3 + data.length
  | _ => False

def ServiceResult.IsError : ServiceResult → Prop
  | .error _ _ => True
  | _ => False

/-- The request is answered, and with APDUs within the limit only. -/
def WithinLimit {World : Type} (server : BACnetServer World) (now : Nat) (request : Request) :
    Prop :=
  ∃ apdus, (server.step (now, request)).1 = some apdus ∧
    ∀ apdu ∈ apdus, apdu.length ≤ server.config.maxApduLength.toNat

/-- No cached response that is too long is replayed, and no Error is longer than the limit. -/
structure FitsLimit {World : Type} (server : BACnetServer World) (now : Nat) (request : Request) :
    Prop where
  replay : ∀ cached, (server.tsm.beginTransaction now request.key request.serviceChoice).1 =
    .ok (some cached) → cached.length ≤ server.config.maxApduLength.toNat
  errors : (server.tsm.beginTransaction now request.key request.serviceChoice).1 = .ok none →
    (server.handled request).1.IsError → 7 ≤ server.config.maxApduLength.toNat

variable (segments : List Bytes) (invokeId serviceChoice : UInt8) (errorClass : ErrorClass)
variable (errorCode : ErrorCode)

theorem error_class_enumerated_length : (encodeEnumerated errorClass.code).length = 2 := by
  cases errorClass <;> rfl

theorem error_code_enumerated_length : (encodeEnumerated errorCode.code).length = 2 := by
  cases errorCode <;> rfl

theorem error_apdu_length :
    (buildErrorApdu invokeId serviceChoice errorClass errorCode).length = 7 := by
  rw [buildErrorApdu, encodeErrorPdu, length_append, length_append,
    error_class_enumerated_length, error_code_enumerated_length]
  rfl

theorem segment_apdu_length {limit : Nat} (short : ∀ segment ∈ segments, segment.length ≤ limit)
    {apdu : Bytes} (member : apdu ∈ segmentApdus segments invokeId serviceChoice) :
    apdu.length ≤ limit + 5 := by
  obtain ⟨index, bound, built⟩ := List.mem_mapIdx.mp member
  have size := short (segments.get ⟨index, bound⟩) (List.getElem_mem bound)
  rw [← built, length_append, Nat.add_comm]
  exact Nat.add_le_add_right size 5

theorem segment_apdus_differ (request : Request) (data : Bytes) :
    segmentApdus segments request.invokeId request.serviceChoice ≠
      [complexAckApdu request data] := by
  intro same
  have member : complexAckApdu request data ∈
      segmentApdus segments request.invokeId request.serviceChoice := by
    rw [same]
    exact List.mem_singleton_self _
  obtain ⟨index, bound, built⟩ := List.mem_mapIdx.mp member
  have header := congrArg List.head? built
  by_cases more : index < segments.length - 1
  · rw [decide_eq_true more] at header
    exact absurd (Option.some.inj header) (by decide)
  · rw [decide_eq_false more] at header
    exact absurd (Option.some.inj header) (by decide)

variable {opened : Nat}

section

variable {World : Type} (server : BACnetServer World) (request : Request)
  (result : ServiceResult)

section

variable (undropped : server.tsm.config.chaosDropThreshold = none)
  (large : 6 ≤ server.config.maxApduLength.toNat)
  (transmitter : server.segmentTransmitter = ⟨server.config.maxApduLength.toNat - 5⟩)

theorem oversized_apdu_length (oversized : Oversized server.config result) {apdu : Bytes}
    (built : responseApdu request result = some apdu) :
    server.config.maxApduLength.toNat < apdu.length := by
  cases result with
  | complexAck =>
    rw [← Option.some.inj built, complexAckApdu, length_append]
    exact oversized
  | simpleAck | error | reject | abort | noResponse | broadcast => exact oversized.elim

include large in
theorem response_apdu_length (fits : ¬Oversized server.config result) {apdu : Bytes}
    (built : responseApdu request result = some apdu) :
    apdu.length ≤ server.config.maxApduLength.toNat ↔
      (result.IsError → 7 ≤ server.config.maxApduLength.toNat) := by
  have three : 3 ≤ server.config.maxApduLength.toNat := by omega
  cases result with
  | error =>
    rw [← Option.some.inj built, error_apdu_length]
    exact ⟨fun bound _ => bound, fun bound => bound trivial⟩
  | complexAck =>
    rw [← Option.some.inj built, complexAckApdu, length_append]
    exact ⟨fun _ none => none.elim, fun _ => Nat.le_of_not_lt fits⟩
  | simpleAck | reject | abort =>
    rw [← Option.some.inj built]
    exact ⟨fun _ none => none.elim, fun _ => three⟩
  | noResponse | broadcast => simp [responseApdu] at built

include undropped

theorem complete_sends (cached : Bytes) (response : ProcessedResponse) :
    (server.complete request cached response).1 = some response := by
  simp only [complete, ServerTsm.completeTransaction, undropped, if_true]

theorem respond_single (fits : ¬Oversized server.config result) :
    (server.respond request result).1.map ProcessedResponse.apdus =
      some (responseApdu request result).toList := by
  cases result with
  | simpleAck | error | reject | abort =>
    rw [respond, complete_sends server request undropped]
    rfl
  | complexAck =>
    rw [respond, if_pos (Nat.le_of_not_lt fits), complete_sends server request undropped]
    rfl
  | noResponse | broadcast => rfl

include large transmitter

/-- The segments leave room for their headers, and the segmentation ends. -/
theorem respond_segmented {data : Bytes} (oversized : Oversized server.config (.complexAck data)) :
    ∃ segments, (server.respond request (.complexAck data)).1.map ProcessedResponse.apdus =
        some (segmentApdus segments request.invokeId request.serviceChoice) ∧
      ∀ segment ∈ segments, segment.length ≤ server.config.maxApduLength.toNat - 5 := by
  have positive : 1 ≤ server.segmentTransmitter.maxSegmentSize := by
    rw [transmitter]
    change 1 ≤ server.config.maxApduLength.toNat - 5
    omega
  have tooLong : server.config.maxApduLength.toNat < 3 + data.length := oversized
  have needed : server.segmentTransmitter.needsSegmentation data.length = true := by
    rw [transmitter]
    apply decide_eq_true
    change data.length > server.config.maxApduLength.toNat - 5
    omega
  obtain ⟨segments, cut, _, _, _, _, sizes, _⟩ :=
    segment_spec server.segmentTransmitter data request.invokeId positive
  have responds : server.respond request (.complexAck data) =
      server.complete request (complexAckApdu request data)
        (.segmented (segments.map Segment.data) request.source request.invokeId
          request.serviceChoice) := by
    simp only [respond, if_neg (Nat.not_le_of_lt tooLong), needed, if_true, cut]
  refine ⟨segments.map Segment.data, ?_, ?_⟩
  · rw [responds, complete_sends server request undropped]
    rfl
  · intro chunk member
    obtain ⟨segment, inside, rfl⟩ := List.mem_map.mp member
    have size := sizes segment inside
    rwa [transmitter] at size

theorem respond_within_iff :
    (∃ apdus, (server.respond request result).1.map ProcessedResponse.apdus = some apdus ∧
        ∀ apdu ∈ apdus, apdu.length ≤ server.config.maxApduLength.toNat) ↔
      (result.IsError → 7 ≤ server.config.maxApduLength.toNat) := by
  by_cases oversized : Oversized server.config result
  · cases result with
    | complexAck data =>
      obtain ⟨segments, sent, sizes⟩ :=
        respond_segmented server request undropped large transmitter oversized
      refine ⟨fun _ none => none.elim, fun _ => ⟨_, sent, fun apdu member => ?_⟩⟩
      have size := segment_apdu_length segments _ _ sizes member
      omega
    | simpleAck | error | reject | abort | noResponse | broadcast => exact oversized.elim
  · rw [respond_single server request result undropped oversized]
    cases built : responseApdu request result with
    | none =>
      have quiet : ¬result.IsError := by
        intro error
        cases result with
        | error => simp [responseApdu] at built
        | simpleAck | complexAck | reject | abort | noResponse | broadcast => exact error
      exact ⟨fun _ error => absurd error quiet, fun _ => ⟨[], rfl, by simp⟩⟩
    | some apdu =>
      rw [← response_apdu_length server request result large oversized built]
      constructor
      · rintro ⟨apdus, sent, short⟩
        rw [← Option.some.inj sent] at short
        exact short apdu (List.mem_singleton_self _)
      · intro short
        exact ⟨[apdu], rfl, fun other member => by rwa [List.mem_singleton.mp member]⟩

theorem respond_returns : (server.respond request result).1 ≠ none := by
  intro lost
  by_cases oversized : Oversized server.config result
  · cases result with
    | complexAck data =>
      obtain ⟨segments, sent, _⟩ :=
        respond_segmented server request undropped large transmitter oversized
      simp [lost] at sent
    | simpleAck | error | reject | abort | noResponse | broadcast => exact oversized.elim
  · have sent := respond_single server request result undropped oversized
    simp [lost] at sent

end

/-- The table caches the unsegmented APDU, however the response is sent. -/
theorem respond_tracks (tracks : Tracks server.tsm request.key opened none)
    (returns : (server.respond request result).1 ≠ none) :
    Tracks (server.respond request result).2.tsm request.key opened
      (responseApdu request result) := by
  rcases respond_cases server request result with
    ⟨built, silent⟩ | lost | ⟨apdu, response, built, completes, _⟩
  · rw [silent, built]
    exact tracks
  · rw [lost] at returns
    exact absurd rfl returns
  · rw [completes, built]
    have cached := complete_tracks tracks request.key apdu
    rwa [responseAfter, if_pos rfl] at cached

end

section

variable {World : Type} {tsmConfig : TsmConfig} {config : ServerConfig}

theorem within_limit_iff {history : List (Nat × Request)} {server : BACnetServer World}
    (serving : Serving tsmConfig config history server)
    (undropped : tsmConfig.chaosDropThreshold = none)
    (large : 6 ≤ config.maxApduLength.toNat) (now : Nat) (request : Request) :
    WithinLimit server now request ↔ FitsLimit server now request := by
  obtain ⟨rfl, transmitter, sound, _⟩ := serving
  have begunSound := begin_sound tsmConfig now request.key request.serviceChoice sound
  have sends : (server.step (now, request)).1 =
      (server.dispatchAndRespond request now).1.map ProcessedResponse.apdus := rfl
  unfold WithinLimit
  rw [sends]
  rcases dispatch_cases server request now with
    ⟨cached, replayed, result⟩ | ⟨opened, result⟩ | ⟨waiting, result⟩ | ⟨full, result⟩
  · rw [result]
    constructor
    · rintro ⟨apdus, sent, short⟩
      rw [← Option.some.inj sent] at short
      refine ⟨?_, ?_⟩
      · intro other same
        rw [replayed, Except.ok.injEq, Option.some.injEq] at same
        rw [← same]
        exact short cached (List.mem_singleton_self _)
      · intro opened
        simp [replayed] at opened
    · intro fits
      exact ⟨[cached], rfl, fun apdu member => by
        rw [List.mem_singleton.mp member]
        exact fits.replay cached replayed⟩
  · rw [result]
    have iff := respond_within_iff (server.executing request now) request (server.handled request).1
      (by rw [show (server.executing request now).tsm.config = tsmConfig from begunSound.configured]
          exact undropped) large transmitter
    constructor
    · intro sent
      refine ⟨?_, fun _ => iff.mp sent⟩
      intro cached replayed
      simp [opened] at replayed
    · intro fits
      exact iff.mpr (fits.errors opened)
  · rw [result]
    refine ⟨fun _ => ⟨?_, ?_⟩, fun _ => ⟨[], rfl, by simp⟩⟩
    · intro cached replayed
      simp [waiting] at replayed
    · intro opened
      simp [waiting] at opened
  · rw [result]
    refine ⟨fun _ => ⟨?_, ?_⟩, fun _ => ⟨_, rfl, fun apdu member => ?_⟩⟩
    · intro cached replayed
      simp [full] at replayed
    · intro opened
      simp [full] at opened
    · rw [List.mem_singleton.mp member]
      change 3 ≤ server.config.maxApduLength.toNat
      omega

end

section

variable {World : Type} {tsmConfig : TsmConfig} {config : ServerConfig}

variable (history : List (Nat × Request)) (server : BACnetServer World)

/-- An open transaction stays while other requests come in and its own is repeated. -/
theorem step_keeps_transaction (timed : Nat × Request) (sound : Sound tsmConfig server.tsm)
    (key : TransactionKey) (opened : Nat) (cached : Option Bytes)
    (tracks : Tracks server.tsm key opened cached)
    (inWindow : timed.1 - opened ≤ tsmConfig.duplicateWindow) :
    Tracks (server.step timed).2.tsm key opened cached := by
  obtain ⟨now, request⟩ := timed
  have begun := begin_tracks tracks request.key request.serviceChoice
    (by rw [sound.configured]; exact inWindow)
  change Tracks (server.dispatchAndRespond request now).2.tsm key opened cached
  rcases dispatch_cases server request now with
    ⟨_, _, result⟩ | ⟨new, result⟩ | ⟨_, result⟩ | ⟨_, result⟩
  · rw [result]
    exact begun
  · have different : request.key ≠ key := by
      rintro rfl
      have reply := tracked_reply tsmConfig request.serviceChoice sound tracks inWindow
      rw [new] at reply
      cases cached with
      | none | some => simp [duplicateAnswer] at reply
    rw [result]
    rcases respond_cases (server.executing request now) request (server.handled request).1 with
      ⟨_, silent⟩ | lost | ⟨apdu, response, _, completes, _⟩
    · rw [silent]
      exact begun
    · rw [lost]
      exact begun
    · rw [completes]
      have completed := complete_tracks begun request.key apdu
      rwa [responseAfter, if_neg different] at completed
  · rw [result]
    exact begun
  · rw [result]
    exact begun

theorem run_keeps_transaction (history requests : List (Nat × Request))
    (server : BACnetServer World) (serving : Serving tsmConfig config history server)
    (key : TransactionKey) (opened : Nat) (cached : Option Bytes)
    (tracks : Tracks server.tsm key opened cached)
    (inWindow : ∀ timed ∈ requests, timed.1 - opened ≤ tsmConfig.duplicateWindow) :
    Tracks (final step server requests).tsm key opened cached := by
  induction requests generalizing history server with
  | nil => exact tracks
  | cons timed requests ih =>
    apply ih _ _ (step_serving tsmConfig config history server timed.1 timed.2 serving)
    · exact step_keeps_transaction server timed serving.sound key opened cached tracks
        (inWindow timed (by simp))
    · intro later member
      exact inWindow later (by simp [member])

/-- A repeated request is answered with the cached APDU, or with nothing while
there is none. -/
theorem replayed_apdus {now : Nat} {request : Request} (sound : Sound tsmConfig server.tsm)
    {cached : Option Bytes}
    (tracks : Tracks server.tsm request.key opened cached)
    (inWindow : now - opened ≤ tsmConfig.duplicateWindow) :
    (server.step (now, request)).1 = some cached.toList := by
  have reply := tracked_reply tsmConfig request.serviceChoice sound tracks inWindow
  change (server.dispatchAndRespond request now).1.map ProcessedResponse.apdus = _
  cases cached with
  | none =>
    rcases dispatch_cases server request now with
      ⟨_, other, _⟩ | ⟨other, _⟩ | ⟨_, result⟩ | ⟨other, _⟩
    · simp [other, duplicateAnswer] at reply
    · simp [other, duplicateAnswer] at reply
    · rw [result]
      rfl
    · simp [other, duplicateAnswer] at reply
  | some =>
    rcases dispatch_cases server request now with
      ⟨_, same, result⟩ | ⟨other, _⟩ | ⟨other, _⟩ | ⟨other, _⟩
    · rw [same, duplicateAnswer, Except.ok.injEq, Option.some.injEq] at reply
      rw [result, reply]
      rfl
    · simp [other, duplicateAnswer] at reply
    · simp [other, duplicateAnswer] at reply
    · simp [other, duplicateAnswer] at reply

theorem opening_step (serving : Serving tsmConfig config history server)
    (undropped : tsmConfig.chaosDropThreshold = none) (large : 6 ≤ config.maxApduLength.toNat)
    {original : Request}
    (new : (server.tsm.beginTransaction opened original.key original.serviceChoice).1 = .ok none) :
    Tracks (server.step (opened, original)).2.tsm original.key opened
        (responseApdu original (server.handled original).1) ∧
      ((server.step (opened, original)).1 =
          some (responseApdu original (server.handled original).1).toList ↔
        ¬Oversized config (server.handled original).1) := by
  obtain ⟨rfl, transmitter, sound, _⟩ := serving
  have present := executing_open tsmConfig server original sound new
  have configured : (server.executing original opened).tsm.config.chaosDropThreshold = none := by
    rw [show (server.executing original opened).tsm.config = tsmConfig from
      (begin_sound tsmConfig opened original.key original.serviceChoice sound).configured]
    exact undropped
  have result : server.dispatchAndRespond original opened =
      (server.executing original opened).respond original (server.handled original).1 := by
    rcases dispatch_cases server original opened with
      ⟨_, other, _⟩ | ⟨_, result⟩ | ⟨other, _⟩ | ⟨other, _⟩
    · simp [new] at other
    · exact result
    · simp [new] at other
    · simp [new] at other
  have returns := respond_returns (server.executing original opened) original
    (server.handled original).1 configured large transmitter
  constructor
  · change Tracks (server.dispatchAndRespond original opened).2.tsm _ _ _
    rw [result]
    exact respond_tracks _ original _ ⟨_, present, rfl, rfl⟩ returns
  · change (server.dispatchAndRespond original opened).1.map ProcessedResponse.apdus = _ ↔ _
    rw [result]
    constructor
    · intro whole oversized
      cases handled : (server.handled original).1 with
      | complexAck data =>
        rw [handled] at whole oversized
        obtain ⟨segments, sent, _⟩ := respond_segmented (server.executing original opened)
          original configured large transmitter oversized
        rw [sent, Option.some.injEq] at whole
        exact segment_apdus_differ segments original data whole
      | simpleAck | error | reject | abort | noResponse | broadcast =>
        rw [handled] at oversized
        exact oversized
    · intro fits
      exact respond_single (server.executing original opened) original _ configured fits

/-- What is replayed is within the limit by the result that it was made from. -/
theorem replay_within_iff {server : BACnetServer World} {now : Nat} {request original : Request}
    {result : ServiceResult} (configured : server.config = config)
    (large : 6 ≤ config.maxApduLength.toNat)
    (replayed : (server.step (now, request)).1 = some (responseApdu original result).toList) :
    WithinLimit server now request ↔
      ¬Oversized config result ∧ (result.IsError → 7 ≤ config.maxApduLength.toNat) := by
  subst configured
  rw [WithinLimit, replayed]
  cases built : responseApdu original result with
  | none =>
    cases result with
    | noResponse | broadcast => exact iff_of_true ⟨[], rfl, by simp⟩ ⟨id, False.elim⟩
    | simpleAck | complexAck | error | reject | abort => cases built
  | some apdu =>
    by_cases oversized : Oversized server.config result
    · have long := oversized_apdu_length server original result oversized built
      refine iff_of_false ?_ fun fits => fits.1 oversized
      rintro ⟨apdus, sent, short⟩
      rw [← Option.some.inj sent] at short
      exact absurd (short apdu (List.mem_singleton_self _)) (Nat.not_le_of_lt long)
    · rw [and_iff_right oversized,
        ← response_apdu_length server original result large oversized built]
      simp

end

/-- A request is answered within the limit exactly when it replays no longer response and gets no
Error above it; a retransmission gets the same APDUs exactly when those were not segments, and is
within the limit exactly when they were not and are no Error above it. -/
theorem limit_and_replay_iff {World : Type} (tsmConfig : TsmConfig) (config : ServerConfig)
    (undropped : tsmConfig.chaosDropThreshold = none)
    (large : 6 ≤ config.maxApduLength.toNat) (services : ServiceRegistry World) (world : World) :
    (∀ before now request, WithinLimit (served tsmConfig config services world before) now request ↔
        FitsLimit (served tsmConfig config services world before) now request) ∧
    (∀ before opened original between now,
      Transducer.Chronological (before ++ (opened, original) :: between ++ [(now, original)]) →
      ((served tsmConfig config services world before).tsm.beginTransaction opened original.key
        original.serviceChoice).1 = .ok none →
      now - opened ≤ tsmConfig.duplicateWindow →
      let result := ((served tsmConfig config services world before).handled original).1
      (((served tsmConfig config services world
            (before ++ (opened, original) :: between)).step (now, original)).1 =
          ((served tsmConfig config services world before).step (opened, original)).1 ↔
        ¬Oversized config result) ∧
      (WithinLimit (served tsmConfig config services world
          (before ++ (opened, original) :: between)) now original ↔
        ¬Oversized config result ∧ (result.IsError → 7 ≤ config.maxApduLength.toNat))) := by
  constructor
  · intro before now request
    exact within_limit_iff (served_serving tsmConfig config services world before)
      undropped large now request
  · intro before opened original between now ordered new inWindow result
    have servingBefore := served_serving tsmConfig config services world before
    obtain ⟨tracks, whole⟩ :=
      opening_step before _ servingBefore undropped large new
    have upTo : ∀ timed ∈ between, timed.1 - opened ≤ tsmConfig.duplicateWindow := by
      intro timed member
      have earlier : timed.1 ≤ now :=
        (List.pairwise_append.mp ordered).2.2 timed (by simp [member]) _ (List.mem_singleton_self _)
      omega
    have kept := run_keeps_transaction _ between _
      (step_serving tsmConfig config before _ opened original servingBefore) original.key opened _
      tracks upTo
    have sameState : served tsmConfig config services world (before ++ (opened, original) ::
        between) = final step
          ((served tsmConfig config services world before).step (opened, original)).2 between := by
      rw [served, final_append, final_cons]
      rfl
    have serving := served_serving tsmConfig config services world
      (before ++ (opened, original) :: between)
    rw [sameState] at serving ⊢
    have replayed := replayed_apdus _ serving.sound kept inWindow
    constructor
    · rw [replayed, ← whole]
      exact eq_comm
    · exact replay_within_iff serving.configured large replayed

/-- The read of `readWriteServices` and its retransmission. -/
theorem read_replayed_within_limit : let read : Request := ⟨.v4 2130706433 47808, 1, 12, []⟩
    WithinLimit (served default ⟨1, 480⟩ readWriteServices () []) 0 read ∧
      ((served default ⟨1, 480⟩ readWriteServices () [(0, read)]).step (5, read)).1 =
        ((served default ⟨1, 480⟩ readWriteServices () []).step (0, read)).1 := by
  intro read
  have both := limit_and_replay_iff default ⟨1, 480⟩ rfl (by decide) readWriteServices ()
  have opens : ((served default ⟨1, 480⟩ readWriteServices () []).tsm.beginTransaction 0
      read.key read.serviceChoice).1 = .ok none := rfl
  refine ⟨(both.1 [] 0 read).mpr ⟨?_, ?_⟩,
    (both.2 [] 0 read [] 5 (by decide) opens (by decide)).1.mpr (show ¬480 < 3 + 1 by decide)⟩
  · intro cached replayed
    simp [opens] at replayed
  · intro _ _
    decide

def tenByteServices : ServiceRegistry Unit where
  confirmedHandlers := (∅ : KeyedTable.Table UInt8 (ConfirmedServiceHandler Unit)).insert 12
    ⟨0, fun _ _ world => (.complexAck (List.replicate 10 7), world)⟩

/-- Sent in two segments of ten bytes, and the retransmission as one APDU of thirteen. -/
theorem retransmission_exceeds_limit : Transducer.outputs step
      (new ⟨1, 10⟩ default tenByteServices ())
      [(0, ⟨.v4 2130706433 47808, 1, 12, []⟩), (1, ⟨.v4 2130706433 47808, 1, 12, []⟩)] =
      [some [[0x3C, 1, 0, 1, 12, 7, 7, 7, 7, 7], [0x38, 1, 1, 1, 12, 7, 7, 7, 7, 7]],
       some [[0x30, 1, 12, 7, 7, 7, 7, 7, 7, 7, 7, 7, 7]]] := by
  decide

end Mabinogion.Bacnet.Server
