import Mabinogion.Library.ListSelection
import Mabinogion.Library.MeasuredLoop
import Mabinogion.Library.Transducer
import Mabinogion.Library.Triple

/-!
# The batch processor

Requests are queued with a number of their own and answered by one flush. The loop that merges
reads advances its index past requests that the removal of others has moved there, so that some
of a batch are never answered.
-/

namespace Mabinogion.Modbus

open Checked ListSelection Transducer List

inductive ProcessingStrategy where
  | sequential
  | parallel
  | priorityParallel
  | adaptive

inductive RequestPriority where
  | low
  | normal
  | high
  | critical

inductive BatchError where
  | timeout
  | shutdown
  | queueFull (current max : Nat)
  | processing (message : String)
  | cancelled

abbrev Channel : Type := Nat

structure BatchRequest (T : Type) where
  id : Nat
  payload : T
  priority : RequestPriority
  unitId : UInt8
  functionCode : UInt8
  startAddress : UInt16
  quantity : UInt16
  responseTx : Option Channel

structure BatchResponse (T : Type) where
  requestId : Nat
  result : Except BatchError T
  coalesced : Bool

namespace BatchRequest

variable {T : Type}

/-- The channel is the one that was opened for the request. -/
def new (payload : T) (unitId functionCode : UInt8) (startAddress quantity : UInt16)
    (channel : Channel) : BatchRequest T :=
  ⟨0, payload, .normal, unitId, functionCode, startAddress, quantity, some channel⟩

def saturatingAdd (left right : UInt16) : UInt16 :=
  if left.toNat + right.toNat < 65536 then left + right else 65535

def canCoalesce (self other : BatchRequest T) : Bool :=
  if self.functionCode > 4 || other.functionCode > 4 then false
  else if self.unitId != other.unitId || self.functionCode != other.functionCode then false
  else
    let selfEnd := saturatingAdd self.startAddress self.quantity
    let otherEnd := saturatingAdd other.startAddress other.quantity
    (selfEnd ≥ other.startAddress && self.startAddress ≤ otherEnd) ||
      (otherEnd ≥ self.startAddress && other.startAddress ≤ selfEnd)

/-- The order of the keys unit, function and address. -/
def keyLe (left right : BatchRequest T) : Bool :=
  if left.unitId != right.unitId then left.unitId < right.unitId
  else if left.functionCode != right.functionCode then left.functionCode < right.functionCode
  else left.startAddress ≤ right.startAddress

end BatchRequest

structure BatchHandler (T : Type) where
  process : BatchRequest T → Except BatchError T
  processBatch : List (BatchRequest T) → List (Except BatchError T)
  canCoalesce : BatchRequest T → BatchRequest T → Bool

/-- A handler that overrides neither of the provided methods. -/
def BatchHandler.ofProcess {T : Type} (process : BatchRequest T → Except BatchError T) :
    BatchHandler T where
  process
  processBatch requests := requests.map process
  canCoalesce := BatchRequest.canCoalesce

structure CoalescingConfig where
  enabled : Bool
  maxCoalesce : Nat

structure BatchProcessorConfig where
  maxPending : Nat
  coalescing : CoalescingConfig

structure BatchStatistics where
  totalSubmitted : Nat := 0
  totalProcessed : Nat := 0
  totalCoalesced : Nat := 0
  totalBatches : Nat := 0

structure BatchProcessor (T : Type) where
  config : BatchProcessorConfig
  strategy : ProcessingStrategy
  nextId : Nat
  pendingBatch : List (BatchRequest T)
  pendingCount : Nat
  peakQueueDepth : Nat
  stats : BatchStatistics
  shutdown : Bool

/-- A processor together with what has been sent on the channels, oldest first. -/
structure Batching (T : Type) where
  processor : BatchProcessor T
  sent : List (Channel × BatchResponse T)

namespace BatchProcessor

variable {T : Type}

def new (config : BatchProcessorConfig) : BatchProcessor T :=
  ⟨config, .adaptive, 1, [], 0, 0, {}, false⟩

def withStrategy (processor : BatchProcessor T) (strategy : ProcessingStrategy) :
    BatchProcessor T :=
  { processor with strategy }

variable (request : BatchRequest T)

def enqueue (processor : BatchProcessor T) : BatchProcessor T :=
  let batch := processor.pendingBatch ++ [{ request with id := processor.nextId }]
  { processor with
    nextId := processor.nextId + 1
    pendingBatch := batch
    pendingCount := batch.length
    peakQueueDepth := max processor.peakQueueDepth batch.length
    stats := { processor.stats with totalSubmitted := processor.stats.totalSubmitted + 1 } }

def submit : Checked (Batching T) BatchError Unit := do
  let processor ← gets Batching.processor
  failIf processor.shutdown .shutdown
  failIf (processor.config.maxPending ≤ processor.pendingCount)
    (.queueFull processor.pendingCount processor.config.maxPending)
  modify fun batching => { batching with processor := enqueue request batching.processor }

def sendResponse (result : Except BatchError T) (coalesced : Bool) :
    Checked (Batching T) Empty Unit :=
  match request.responseTx with
  | none => pure ()
  | some channel => modify fun batching =>
    { batching with sent := batching.sent ++ [(channel, ⟨request.id, result, coalesced⟩)] }

def onStats (update : BatchStatistics → BatchStatistics) : Checked (Batching T) Empty Unit :=
  modify fun batching =>
    { batching with
      processor := { batching.processor with stats := update batching.processor.stats } }

variable (stats : BatchStatistics)

def countProcessed : BatchStatistics :=
  { stats with totalProcessed := stats.totalProcessed + 1 }

def countCoalesced : BatchStatistics :=
  { stats with totalCoalesced := stats.totalCoalesced + 1 }

def countBatch : BatchStatistics :=
  { stats with totalBatches := stats.totalBatches + 1 }

def respondAll : List (BatchRequest T × Except BatchError T) → Nat → Checked (Batching T) Empty Nat
  | [], processed => pure processed
  | (request, result) :: rest, processed => do
    sendResponse request result false
    onStats countProcessed
    respondAll rest (processed + 1)

variable (handler : BatchHandler T)

def processSequential : List (BatchRequest T) → Nat → Checked (Batching T) Empty Nat
  | [], processed => pure processed
  | request :: rest, processed => do
    sendResponse request (handler.process request) false
    onStats countProcessed
    processSequential rest (processed + 1)

/-- A request that stands for the addresses of both. -/
def merge (current other : BatchRequest T) : Checked (Batching T) Empty (BatchRequest T) := do
  let newStart := min current.startAddress.toNat other.startAddress.toNat
  let currentEnd ← checkedAdd 65536 current.startAddress.toNat current.quantity.toNat
  let otherEnd ← checkedAdd 65536 other.startAddress.toNat other.quantity.toNat
  let quantity ← checkedSub (max currentEnd otherEnd) newStart
  pure { current with
    startAddress := UInt16.ofNat newStart
    quantity := UInt16.ofNat quantity }

/-- The inner loop: the request that is grown, the others, the index and the count of merges. -/
structure Merging (T : Type) where
  current : BatchRequest T
  requests : List (BatchRequest T)
  index : Nat
  mergedCount : Nat

def mergeNext (merging : Merging T) : Checked (Batching T) Empty (Merging T) :=
  match swapRemove merging.requests merging.index with
  | none => raise .indexOutOfRange
  | some (other, rest) => do
    let current ← merge merging.current other
    onStats countCoalesced
    pure ⟨current, rest, merging.index, merging.mergedCount + 1⟩

variable (maxCoalesce : Nat)

def mergeRound (merging : Merging T) :
    Checked (Batching T) Empty (Merging T ⊕ (BatchRequest T × List (BatchRequest T))) :=
  if merging.index < merging.requests.length ∧ merging.mergedCount < maxCoalesce then do
    let candidate ← checkedIndex merging.requests merging.index
    if handler.canCoalesce merging.current candidate then do
      let next ← mergeNext merging
      pure (.inl next)
    else pure (.inl { merging with index := merging.index + 1 })
  else pure (.inr (merging.current, merging.requests))

/-- The outer loop: the requests that are left, the index and the requests that come out. -/
structure Coalescing (T : Type) where
  requests : List (BatchRequest T)
  index : Nat
  coalesced : List (BatchRequest T)

def coalesceFrom (coalescing : Coalescing T) :
    Checked (Batching T) Empty (Coalescing T ⊕ List (BatchRequest T)) :=
  match swapRemove coalescing.requests coalescing.index with
  | none => raise .indexOutOfRange
  | some (first, others) => do
    let (current, rest) ← loopWithin (mergeRound handler maxCoalesce) (others.length + 1)
      ⟨first, others, coalescing.index, 0⟩
    let coalesced := coalescing.coalesced ++ [current]
    if coalescing.index < rest.length then
      pure (.inl ⟨rest, coalescing.index + 1, coalesced⟩)
    else pure (.inr coalesced)

def coalesceRound (coalescing : Coalescing T) :
    Checked (Batching T) Empty (Coalescing T ⊕ List (BatchRequest T)) :=
  if coalescing.index < coalescing.requests.length then
    coalesceFrom handler maxCoalesce coalescing
  else pure (.inr coalescing.coalesced)

def coalesceRequests (requests : List (BatchRequest T)) :
    Checked (Batching T) Empty (List (BatchRequest T)) := do
  let config ← gets fun batching => batching.processor.config
  if requests.length ≤ 1 then pure requests
  else
    let sorted := requests.mergeSort BatchRequest.keyLe
    loopWithin (coalesceRound handler config.coalescing.maxCoalesce) (sorted.length + 1)
      ⟨sorted, 0, []⟩

variable (batch : List (BatchRequest T))

def processParallel : Checked (Batching T) Empty Nat := do
  let config ← gets fun batching => batching.processor.config
  let requests ← if config.coalescing.enabled then coalesceRequests handler batch else pure batch
  respondAll (requests.zip (handler.processBatch requests)) 0

def processBatch : Checked (Batching T) Empty Nat := do
  let strategy ← gets fun batching => batching.processor.strategy
  match strategy with
  | .sequential => processSequential handler batch 0
  | .parallel | .priorityParallel => processParallel handler batch
  | .adaptive =>
    if batch.length > 10 then processParallel handler batch
    else processSequential handler batch 0

def takeBatch (batching : Batching T) : Batching T :=
  { batching with processor := { batching.processor with pendingBatch := [] } }

def flush : Checked (Batching T) Empty Nat := do
  let batch ← gets fun batching => batching.processor.pendingBatch
  modify takeBatch
  if batch.isEmpty then pure 0
  else do
    modify fun batching =>
      { batching with processor := { batching.processor with pendingCount := 0 } }
    let processed ← processBatch handler batch
    onStats countBatch
    pure processed

section

variable {batching : Batching T}

def submitStep (batching : Batching T) (request : BatchRequest T) :
    Option (Except BatchError Unit) × Batching T :=
  ((submit request batching).returned, (submit request batching).final batching)

def accepted : Option (Except BatchError Unit) → Bool
  | some (.ok _) => true
  | _ => false

def numbered : Nat → List (BatchRequest T) → List (BatchRequest T)
  | _, [] => []
  | first, request :: rest => { request with id := first } :: numbered (first + 1) rest

theorem getElem?_numbered (first index : Nat) (requests : List (BatchRequest T)) :
    (numbered first requests)[index]? =
      requests[index]?.map fun request => { request with id := first + index } := by
  induction requests generalizing first index with
  | nil => simp [numbered]
  | cons request rest ih =>
    cases index with
    | zero => rfl
    | succ index =>
      rw [numbered, getElem?_cons_succ, getElem?_cons_succ, ih]
      simp only [Nat.add_assoc, Nat.add_comm 1 index]

theorem length_numbered (first : Nat) (requests : List (BatchRequest T)) :
    (numbered first requests).length = requests.length := by
  induction requests generalizing first with
  | nil => rfl
  | cons request rest ih => simp [numbered, ih]

theorem map_responseTx_numbered (first : Nat) (requests : List (BatchRequest T)) :
    (numbered first requests).map BatchRequest.responseTx =
      requests.map BatchRequest.responseTx := by
  induction requests generalizing first with
  | nil => rfl
  | cons request rest ih => simp [numbered, ih]

structure Open (batching : Batching T) : Prop where
  running : batching.processor.shutdown = false
  counted : batching.processor.pendingCount = batching.processor.pendingBatch.length

def room (batching : Batching T) : Nat :=
  batching.processor.config.maxPending - batching.processor.pendingBatch.length

def enqueued (request : BatchRequest T) (batching : Batching T) : Batching T :=
  { batching with processor := enqueue request batching.processor }

variable (opened : Open batching) (request : BatchRequest T) (requests : List (BatchRequest T))

theorem room_enqueued : room (enqueued request batching) = room batching - 1 := by
  simp only [room, enqueued, enqueue, length_append, length_singleton]
  omega

include opened

theorem submitStep_accepted (free : 0 < room batching) :
    submitStep batching request = (some (.ok ()), enqueued request batching) := by
  have below : ¬batching.processor.config.maxPending ≤ batching.processor.pendingCount := by
    rw [opened.counted]
    unfold room at free
    omega
  have ran : submit request batching = .ok () (enqueued request batching) := by
    rw [submit, bind_ok (gets_apply batching _), opened.running, decide_eq_false below]
    rfl
  rw [submitStep, ran]
  rfl

theorem submitStep_refused (full : room batching = 0) :
    ∃ error, submitStep batching request = (some (.error error), batching) := by
  have above : batching.processor.config.maxPending ≤ batching.processor.pendingCount := by
    rw [opened.counted]
    unfold room at full
    omega
  refine ⟨.queueFull batching.processor.pendingCount batching.processor.config.maxPending, ?_⟩
  have ran : submit request batching = .err (.queueFull batching.processor.pendingCount
      batching.processor.config.maxPending) batching := by
    rw [submit, bind_ok (gets_apply batching _), opened.running, decide_eq_true above]
    rfl
  rw [submitStep, ran]
  rfl

theorem open_enqueued : Open (enqueued request batching) :=
  ⟨opened.running, rfl⟩

theorem submitStep_run : let after := final submitStep batching requests
    (outputs submitStep batching requests).map accepted =
        replicate (min requests.length (room batching)) true ++
          replicate (requests.length - room batching) false ∧
      after.processor.pendingBatch = batching.processor.pendingBatch ++
        numbered batching.processor.nextId (requests.take (room batching)) ∧
      after.processor.config = batching.processor.config ∧
      after.processor.strategy = batching.processor.strategy ∧ after.sent = batching.sent := by
  induction requests generalizing batching with
  | nil => simp [numbered]
  | cons request rest ih =>
    rw [final_cons, outputs_cons]
    cases free : room batching with
    | zero =>
      obtain ⟨error, refused⟩ := submitStep_refused opened request free
      have same := ih opened
      rw [free] at same
      rw [refused]
      simpa [accepted, replicate_succ] using same
    | succ =>
      have taken := submitStep_accepted opened request (by omega)
      have next := ih (open_enqueued opened request)
      rw [room_enqueued, free] at next
      rw [taken]
      simpa [enqueued, enqueue, numbered, accepted, replicate_succ] using next

theorem getElem?_outputs_submitStep (index : Nat) :
    ((outputs submitStep batching requests)[index]?.any accepted) =
      decide (index < requests.length ∧ index < room batching) := by
  have verdict := congrArg (fun verdicts => verdicts[index]?.any id)
    (submitStep_run opened requests).1
  simp only [getElem?_map, Option.any_map, getElem?_append, getElem?_replicate,
    length_replicate] at verdict
  refine Eq.trans verdict ?_
  split_ifs <;> simp <;> omega

theorem countP_outputs_submitStep : (outputs submitStep batching requests).countP accepted =
      min requests.length (room batching) := by
  have verdicts := congrArg (countP id) (submitStep_run opened requests).1
  rw [countP_map] at verdicts
  refine Eq.trans verdicts ?_
  simp [countP_replicate]

end

variable (pairs : List (BatchRequest T × Except BatchError T))

def responses : List (Channel × BatchResponse T) :=
  pairs.filterMap fun pair => pair.1.responseTx.map fun channel => (channel, ⟨pair.1.id, pair.2, false⟩)

theorem sendResponse_eq (request : BatchRequest T) (result : Except BatchError T)
    (batching : Batching T) :
    sendResponse request result false batching =
      .ok () { batching with sent := batching.sent ++ responses [(request, result)] } := by
  cases channel : request.responseTx with
  | none => simp [sendResponse, responses, channel]
  | some => simp [sendResponse, responses, channel, Checked.modify]

theorem respondAll_eq (processed : Nat) (batching : Batching T) :
    ∃ after, respondAll pairs processed batching = .ok (processed + pairs.length) after ∧
      after.sent = batching.sent ++ responses pairs := by
  induction pairs generalizing processed batching with
  | nil => exact ⟨batching, rfl, by simp [responses]⟩
  | cons pair rest ih =>
    obtain ⟨request, result⟩ := pair
    obtain ⟨after, ran, sent⟩ := ih (processed + 1)
      { processor := { batching.processor with stats := countProcessed batching.processor.stats }
        sent := batching.sent ++ responses [(request, result)] }
    refine ⟨after, ?_, ?_⟩
    · rw [respondAll, bind_ok (sendResponse_eq request result batching), length_cons,
        Nat.add_comm rest.length, ← Nat.add_assoc]
      exact ran
    · rw [sent, append_assoc, responses, responses, ← filterMap_append]
      rfl

theorem processSequential_eq (handler : BatchHandler T) (batch : List (BatchRequest T))
    (processed : Nat) :
    processSequential handler batch processed =
      respondAll (batch.map fun request => (request, handler.process request)) processed := by
  induction batch generalizing processed with
  | nil => rfl
  | cons request rest ih =>
    rw [processSequential, map_cons, respondAll]
    congr 1
    funext _
    congr 1
    funext _
    exact ih _

variable {batch : List (BatchRequest T)}

/-- Each of a batch of requests with channels of their own gets one response. -/
theorem responses_once
    {pairs : List (BatchRequest T × Except BatchError T)} (same : pairs.map Prod.fst = batch)
    (distinct : (batch.map BatchRequest.responseTx).Nodup) {request : BatchRequest T}
    {channel : Channel} (member : request ∈ batch)
    (channelled : request.responseTx = some channel) :
    ∃ response, (responses pairs).filter (fun sent => sent.1 = channel) = [(channel, response)] ∧
      response.requestId = request.id := by
  subst same
  have keys : ((responses pairs).map Prod.fst).Nodup := by
    have listed : (responses pairs).map Prod.fst =
        (pairs.map fun pair => pair.1.responseTx).filterMap id := by
      simp only [responses, map_filterMap, filterMap_map]
      congr 1
      funext pair
      show _ = pair.1.responseTx
      cases pair.1.responseTx <;> rfl
    rw [listed]
    rw [map_map] at distinct
    exact distinct.filterMap fun left right => by
      intro value first second
      simp only [id] at first second
      rw [first, second]
  obtain ⟨pair, paired, rfl⟩ := mem_map.mp member
  refine ⟨⟨pair.1.id, pair.2, false⟩, filter_key_eq_singleton keys ?_, rfl⟩
  rw [responses, mem_filterMap]
  exact ⟨pair, paired, by rw [channelled]; rfl⟩

section

def InSixteenBits (request : BatchRequest T) : Prop :=
  request.startAddress.toNat + request.quantity.toNat ≤ 65535

instance (request : BatchRequest T) : Decidable (InSixteenBits request) :=
  inferInstanceAs (Decidable (_ ≤ _))

def hull (current other : BatchRequest T) : BatchRequest T :=
  let newStart := min current.startAddress.toNat other.startAddress.toNat
  let newEnd := max (current.startAddress.toNat + current.quantity.toNat)
    (other.startAddress.toNat + other.quantity.toNat)
  { current with
    startAddress := UInt16.ofNat newStart
    quantity := UInt16.ofNat (newEnd - newStart) }

variable {current other : BatchRequest T}

theorem merge_eq (small : InSixteenBits current)
    (smaller : InSixteenBits other) : merge current other = pure (hull current other) := by
  unfold InSixteenBits at small smaller
  have first : current.startAddress.toNat + current.quantity.toNat < 65536 := by omega
  have second : other.startAddress.toNat + other.quantity.toNat < 65536 := by omega
  have ordered : min current.startAddress.toNat other.startAddress.toNat ≤
      max (current.startAddress.toNat + current.quantity.toNat)
        (other.startAddress.toNat + other.quantity.toNat) := by omega
  rw [merge, checkedAdd, if_pos first, checkedAdd, if_pos second, return_bind, return_bind,
    checkedSub, if_pos ordered, return_bind]
  rfl

theorem hull_small (small : InSixteenBits current)
    (smaller : InSixteenBits other) : InSixteenBits (hull current other) := by
  unfold InSixteenBits at small smaller
  have start : min current.startAddress.toNat other.startAddress.toNat < 65536 := by omega
  have length : max (current.startAddress.toNat + current.quantity.toNat)
      (other.startAddress.toNat + other.quantity.toNat) -
        min current.startAddress.toNat other.startAddress.toNat < 65536 := by omega
  show (UInt16.ofNat _).toNat + (UInt16.ofNat _).toNat ≤ 65535
  rw [UInt16.toNat_ofNat_of_lt' start, UInt16.toNat_ofNat_of_lt' length]
  omega

/-- Along the inner loop: nothing in front of the index is removed. -/
structure Merging.Ordered (index length : Nat) (merging : Merging T) : Prop where
  behind : index ≤ merging.index
  inside : merging.index ≤ merging.requests.length
  shrinks : merging.requests.length ≤ length
  small : InSixteenBits merging.current
  smalls : ∀ request ∈ merging.requests, InSixteenBits request

variable (handler : BatchHandler T)

theorem mergeRound_ordered {maxCoalesce index length : Nat} (merging : Merging T)
    (batching : Batching T) (ordered : merging.Ordered index length) :
    (∃ next after, mergeRound handler maxCoalesce merging batching = .ok (.inl next) after ∧
        next.Ordered index length ∧
        next.requests.length - next.index < merging.requests.length - merging.index) ∨
      ∃ result after, mergeRound handler maxCoalesce merging batching = .ok (.inr result) after ∧
        index ≤ result.2.length ∧ result.2.length ≤ length ∧
        ∀ request ∈ result.2, InSixteenBits request := by
  obtain ⟨behind, inside, shrinks, small, smalls⟩ := ordered
  rw [mergeRound]
  by_cases goes : merging.index < merging.requests.length ∧ merging.mergedCount < maxCoalesce
  · left
    obtain ⟨other, rest, removed, listed, shorter, kept⟩ := exists_swapRemove goes.1
    rw [if_pos goes, bind_ok (checkedIndex_ok batching listed)]
    by_cases joins : handler.canCoalesce merging.current other = true
    · have smaller := smalls other (mem_of_getElem? listed)
      have next : mergeNext merging batching =
          .ok ⟨hull merging.current other, rest, merging.index, merging.mergedCount + 1⟩
            { batching with
              processor :=
                { batching.processor with stats := countCoalesced batching.processor.stats } } := by
        rw [mergeNext, removed]
        simp only
        rw [merge_eq small smaller, return_bind]
        rfl
      rw [if_pos joins]
      refine ⟨_, _, bind_ok next, ?_, ?_⟩
      · exact ⟨behind, by simp only; omega, by simp only; omega, hull_small small smaller,
          fun request member => smalls request (kept request member)⟩
      · simp only
        omega
    · refine ⟨{ merging with index := merging.index + 1 }, batching, ?_, ?_, ?_⟩
      · rw [if_neg joins]
        rfl
      · exact ⟨Nat.le_succ_of_le behind, goes.1, shrinks, small, smalls⟩
      · simp only
        omega
  · right
    rw [if_neg goes]
    exact ⟨_, batching, rfl, behind.trans inside, shrinks, smalls⟩

/-- Every round takes a request away for the one that it puts out, and those in front of the index
are never taken. -/
structure Coalescing.Ordered (size : Nat) (coalescing : Coalescing T) : Prop where
  inside : coalescing.index ≤ coalescing.requests.length
  total : coalescing.coalesced.length + coalescing.requests.length ≤ size
  first : coalescing.index = 0 → coalescing.coalesced = [] ∧ coalescing.requests.length = size
  smalls : ∀ request ∈ coalescing.requests, InSixteenBits request

theorem coalesceRound_ordered {maxCoalesce size : Nat} (several : 2 ≤ size)
    (coalescing : Coalescing T) (batching : Batching T) (ordered : coalescing.Ordered size) :
    (∃ next after, coalesceRound handler maxCoalesce coalescing batching = .ok (.inl next) after ∧
        next.Ordered size ∧ next.requests.length < coalescing.requests.length) ∨
      ∃ result after, coalesceRound handler maxCoalesce coalescing batching =
        .ok (.inr result) after ∧ result.length < size := by
  obtain ⟨inside, total, first, smalls⟩ := ordered
  rw [coalesceRound]
  by_cases goes : coalescing.index < coalescing.requests.length
  · obtain ⟨current, others, removed, listed, shorter, kept⟩ := exists_swapRemove goes
    have start : Merging.Ordered coalescing.index others.length
        ⟨current, others, coalescing.index, 0⟩ :=
      ⟨le_rfl, by simp only; omega, le_rfl, smalls current (mem_of_getElem? listed),
        fun request member => smalls request (kept request member)⟩
    have enough : others.length - coalescing.index < others.length + 1 := by omega
    obtain ⟨⟨merged, rest⟩, after, ran, behind, shrinks, still⟩ := loopWithin_returns
      (fun merging batching ordered =>
        @mergeRound_ordered T handler maxCoalesce _ _ merging batching ordered)
      batching enough start
    simp only at behind shrinks still
    rw [if_pos goes, coalesceFrom, removed]
    simp only
    rw [bind_ok ran]
    by_cases more : coalescing.index < rest.length
    · left
      refine ⟨⟨rest, coalescing.index + 1, coalescing.coalesced ++ [merged]⟩, after, ?_, ?_, ?_⟩
      · simp only [if_pos more]
        rfl
      · refine ⟨more, ?_, ?_, still⟩
        · simp only [length_append, length_singleton]
          omega
        · intro zero
          exact absurd zero (Nat.succ_ne_zero _)
      · simp only
        omega
    · right
      refine ⟨coalescing.coalesced ++ [merged], after, ?_, ?_⟩
      · simp only [if_neg more]
        rfl
      · simp only [length_append, length_singleton]
        by_cases zero : coalescing.index = 0
        · rw [(first zero).1, length_nil]
          omega
        · omega
  · right
    refine ⟨coalescing.coalesced, batching, ?_, ?_⟩
    · rw [if_neg goes]
      rfl
    · by_cases zero : coalescing.index = 0
      · have all := (first zero).2
        omega
      · omega

theorem coalesceRequests_shorter (several : 2 ≤ batch.length)
    (smalls : ∀ request ∈ batch, InSixteenBits request) (batching : Batching T) :
    ∃ requests after, coalesceRequests handler batch batching = .ok requests after ∧
      requests.length < batch.length := by
  have sorted : (batch.mergeSort BatchRequest.keyLe).length = batch.length := length_mergeSort _
  have start : Coalescing.Ordered batch.length ⟨batch.mergeSort BatchRequest.keyLe, 0, []⟩ := by
    refine ⟨Nat.zero_le _, ?_, ?_, ?_⟩
    · simp only [sorted, length_nil]
      omega
    · intro _
      exact ⟨rfl, sorted⟩
    · intro request member
      exact smalls request (mem_mergeSort.mp member)
  have enough : (batch.mergeSort BatchRequest.keyLe).length <
      (batch.mergeSort BatchRequest.keyLe).length + 1 := Nat.lt_succ_self _
  obtain ⟨requests, after, ran, fewer⟩ := loopWithin_returns (fun coalescing inner ordered =>
      @coalesceRound_ordered T handler batching.processor.config.coalescing.maxCoalesce _ several
        coalescing inner ordered) batching enough start
  refine ⟨requests, after, ?_, fewer⟩
  have long : ¬batch.length ≤ 1 := by omega
  rw [coalesceRequests, bind_ok (gets_apply batching _), if_neg long]
  exact ran

end

section

/-- The strategies that process a batch of the given size at once. -/
def Concurrent : ProcessingStrategy → Nat → Prop
  | .sequential, _ => False
  | .parallel, _ | .priorityParallel, _ => True
  | .adaptive, count => 10 < count

def Coalesced (processor : BatchProcessor T) (count : Nat) : Prop :=
  processor.config.coalescing.enabled = true ∧ 2 ≤ count ∧ Concurrent processor.strategy count

variable {handler : BatchHandler T} {batching : Batching T}

theorem processBatch_cases (handler : BatchHandler T) (batch : List (BatchRequest T)) :
    (Concurrent batching.processor.strategy batch.length →
        processBatch handler batch batching = processParallel handler batch batching) ∧
      (¬Concurrent batching.processor.strategy batch.length →
        processBatch handler batch batching = processSequential handler batch 0 batching) := by
  rw [processBatch, bind_ok (gets_apply batching _)]
  cases batching.processor.strategy with
  | sequential => exact ⟨False.elim, fun _ => rfl⟩
  | parallel | priorityParallel => exact ⟨fun _ => rfl, absurd trivial⟩
  | adaptive =>
    split_ifs with large
    · exact ⟨fun _ => rfl, absurd large⟩
    · exact ⟨fun more => absurd more large, fun _ => rfl⟩

theorem processBatch_plain
    (answers : ∀ requests, (handler.processBatch requests).length = requests.length)
    (plain : ¬Coalesced batching.processor batch.length) :
    ∃ pairs, pairs.map Prod.fst = batch ∧
      processBatch handler batch batching = respondAll pairs 0 batching := by
  by_cases concurrent : Concurrent batching.processor.strategy batch.length
  · refine ⟨batch.zip (handler.processBatch batch),
      map_fst_zip (Nat.le_of_eq (answers batch).symm), ?_⟩
    rw [(processBatch_cases handler batch).1 concurrent, processParallel,
      bind_ok (gets_apply batching _)]
    by_cases enabled : batching.processor.config.coalescing.enabled = true
    · have few : batch.length ≤ 1 := by
        by_contra several
        exact plain ⟨enabled, by omega, concurrent⟩
      have alone : coalesceRequests handler batch batching = .ok batch batching := by
        rw [coalesceRequests, bind_ok (gets_apply batching _), if_pos few]
        rfl
      rw [if_pos enabled, bind_ok alone]
    · rw [if_neg enabled, return_bind]
  · refine ⟨batch.map fun request => (request, handler.process request), ?_, ?_⟩
    · rw [map_map]
      exact map_id _
    · rw [(processBatch_cases handler batch).2 concurrent, processSequential_eq]

theorem processBatch_coalesced
    (answers : ∀ requests, (handler.processBatch requests).length = requests.length)
    (smalls : ∀ request ∈ batch, InSixteenBits request)
    (coalesced : Coalesced batching.processor batch.length) :
    ∃ processed after, processBatch handler batch batching = .ok processed after ∧
      processed < batch.length := by
  obtain ⟨enabled, several, concurrent⟩ := coalesced
  obtain ⟨requests, middle, ran, fewer⟩ :=
    coalesceRequests_shorter handler several smalls batching
  obtain ⟨after, responded, _⟩ := respondAll_eq (requests.zip (handler.processBatch requests)) 0
    middle
  have fully : 0 + (requests.zip (handler.processBatch requests)).length = requests.length := by
    rw [length_zip, answers, Nat.min_self, Nat.zero_add]
  refine ⟨requests.length, after, ?_, fewer⟩
  rw [(processBatch_cases handler batch).1 concurrent, processParallel,
    bind_ok (gets_apply batching _),
    if_pos enabled, bind_ok ran, ← fully]
  exact responded

/-- The queue is emptied before the batch is processed. -/
def cleared (batching : Batching T) : Batching T :=
  { batching with
    processor := { batching.processor with pendingBatch := [], pendingCount := 0 } }

theorem flush_eq {processed : Nat} {after : Batching T}
    (filled : batching.processor.pendingBatch ≠ [])
    (ran : processBatch handler batching.processor.pendingBatch (cleared batching) =
      .ok processed after) :
    ∃ later, flush handler batching = .ok processed later ∧ later.sent = after.sent := by
  have some : batching.processor.pendingBatch.isEmpty = false := by
    simpa using filled
  refine ⟨{ after with
      processor := { after.processor with stats := countBatch after.processor.stats } }, ?_, rfl⟩
  rw [flush, bind_ok (gets_apply batching _), some]
  show ((processBatch handler batching.processor.pendingBatch >>= _) : Checked _ _ _)
    (cleared batching) = _
  rw [bind_ok ran]
  rfl

theorem flush_empty (empty : batching.processor.pendingBatch = []) :
    flush handler batching = .ok 0 (takeBatch batching) := by
  rw [flush, bind_ok (gets_apply batching _), empty]
  rfl

end

section

structure Idle (batching : Batching T) : Prop where
  running : batching.processor.shutdown = false
  empty : batching.processor.pendingBatch = []
  counted : batching.processor.pendingCount = 0
  unsent : batching.sent = []

/-- Every accepted request gets one response, with its number, from one flush. -/
def Answered (handler : BatchHandler T) (batching : Batching T)
    (requests : List (BatchRequest T)) : Prop :=
  ∃ processed after, flush handler (final submitStep batching requests) = .ok processed after ∧
      processed = (outputs submitStep batching requests).countP accepted ∧
      ∀ index request channel, requests[index]? = some request → request.responseTx = some channel →
        (outputs submitStep batching requests)[index]?.any accepted = true →
        ∃ response, after.sent.filter (fun sent => sent.1 = channel) = [(channel, response)] ∧
          response.requestId = batching.processor.nextId + index

variable {handler : BatchHandler T} {batching : Batching T} {requests : List (BatchRequest T)}

section

variable (idle : Idle batching)

include idle

theorem Idle.open : Open batching :=
  ⟨idle.running, by rw [idle.counted, idle.empty, length_nil]⟩

theorem Idle.room : room batching = batching.processor.config.maxPending := by
  rw [BatchProcessor.room, idle.empty, length_nil, Nat.sub_zero]

variable (requests)

theorem Idle.submitted : (final submitStep batching requests).processor.pendingBatch =
      numbered batching.processor.nextId (requests.take batching.processor.config.maxPending) := by
  rw [(submitStep_run idle.open requests).2.1, idle.empty, nil_append, idle.room]

theorem Idle.length_submitted : (final submitStep batching requests).processor.pendingBatch.length =
      min requests.length batching.processor.config.maxPending := by
  rw [idle.submitted, length_numbered, length_take, Nat.min_comm]

theorem Idle.count_accepted : (outputs submitStep batching requests).countP accepted =
      min requests.length batching.processor.config.maxPending := by
  rw [countP_outputs_submitStep idle.open, idle.room]

theorem Idle.coalesced_iff : Coalesced (cleared (final submitStep batching requests)).processor
        (final submitStep batching requests).processor.pendingBatch.length ↔
      Coalesced batching.processor (min requests.length batching.processor.config.maxPending) := by
  have config : (cleared (final submitStep batching requests)).processor.config =
      batching.processor.config := (submitStep_run idle.open requests).2.2.1
  have strategy : (cleared (final submitStep batching requests)).processor.strategy =
      batching.processor.strategy := (submitStep_run idle.open requests).2.2.2.1
  rw [Coalesced, Coalesced, config, strategy, idle.length_submitted]

variable {requests}
  (answers : ∀ requests, (handler.processBatch requests).length = requests.length)

include answers

theorem answered_of_plain (distinct : (requests.map BatchRequest.responseTx).Nodup)
    (plain : ¬Coalesced batching.processor
      (min requests.length batching.processor.config.maxPending)) :
    Answered handler batching requests := by
  have queue := idle.submitted requests
  have length := idle.length_submitted requests
  have count := idle.count_accepted requests
  have channels : ((final submitStep batching requests).processor.pendingBatch.map
      BatchRequest.responseTx).Nodup := by
    rw [queue, map_responseTx_numbered, map_take]
    exact distinct.sublist (take_sublist _ _)
  obtain ⟨pairs, paired, ran⟩ := processBatch_plain answers
    (fun coalesced => plain ((idle.coalesced_iff requests).mp coalesced))
  obtain ⟨middle, responded, sent⟩ := respondAll_eq pairs 0
    (cleared (final submitStep batching requests))
  have size : pairs.length = min requests.length batching.processor.config.maxPending := by
    rw [← length, ← paired, length_map]
  have inQueue {index : Nat} {request : BatchRequest T} (listed : requests[index]? = some request)
      (taken : (outputs submitStep batching requests)[index]?.any accepted = true) :
      { request with id := batching.processor.nextId + index } ∈
        (final submitStep batching requests).processor.pendingBatch := by
    rw [getElem?_outputs_submitStep idle.open, decide_eq_true_iff, idle.room] at taken
    rw [queue]
    apply mem_of_getElem?
    rw [getElem?_numbered, getElem?_take_of_lt taken.2, listed]
    rfl
  by_cases empty : (final submitStep batching requests).processor.pendingBatch = []
  · refine ⟨0, _, flush_empty empty, ?_, ?_⟩
    · rw [count, ← length, empty, length_nil]
    · intro index request channel listed _ taken
      have member := inQueue listed taken
      rw [empty] at member
      cases member
  · obtain ⟨after, flushed, same⟩ := flush_eq empty (ran.trans responded)
    refine ⟨_, after, flushed, ?_, ?_⟩
    · rw [count, size, Nat.zero_add]
    · intro index request channel listed channelled taken
      have fresh : (cleared (final submitStep batching requests)).sent = [] :=
        (submitStep_run idle.open requests).2.2.2.2.trans idle.unsent
      rw [same, sent, fresh, nil_append]
      exact responses_once paired channels (inQueue listed taken) channelled

theorem not_answered_of_coalesced (smalls : ∀ request ∈ requests, InSixteenBits request)
    (coalesced : Coalesced batching.processor
      (min requests.length batching.processor.config.maxPending)) :
    ¬Answered handler batching requests := by
  have still : ∀ request ∈ (final submitStep batching requests).processor.pendingBatch,
      InSixteenBits request := by
    intro request member
    rw [idle.submitted requests] at member
    obtain ⟨index, listed⟩ := mem_iff_getElem?.mp member
    rw [getElem?_numbered] at listed
    obtain ⟨original, taken, rfl⟩ := Option.map_eq_some_iff.mp listed
    exact smalls original (mem_of_mem_take (mem_of_getElem? taken))
  obtain ⟨processed, middle, ran, fewer⟩ := processBatch_coalesced answers still
    ((idle.coalesced_iff requests).mpr coalesced)
  have filled : (final submitStep batching requests).processor.pendingBatch ≠ [] := by
    intro empty
    rw [empty] at fewer
    exact absurd fewer (Nat.not_lt_zero _)
  obtain ⟨after, flushed, _⟩ := flush_eq filled ran
  intro answered
  obtain ⟨other, later, ended, number, _⟩ := answered
  rw [flushed] at ended
  cases ended
  rw [number, idle.count_accepted, idle.length_submitted] at fewer
  exact absurd fewer (Nat.lt_irrefl _)

end

/-- The requests are answered, unless there are two or more and they are coalesced. -/
theorem answered_iff_not_coalesced (idle : Idle batching)
    (answers : ∀ requests, (handler.processBatch requests).length = requests.length)
    (distinct : (requests.map BatchRequest.responseTx).Nodup)
    (smalls : ∀ request ∈ requests, InSixteenBits request) :
    Answered handler batching requests ↔
      ¬Coalesced batching.processor (min requests.length batching.processor.config.maxPending) :=
  ⟨fun answered coalesced => not_answered_of_coalesced idle answers smalls coalesced answered,
    answered_of_plain idle answers distinct⟩

def coalescingProcessor (strategy : ProcessingStrategy) : Batching Unit :=
  ⟨(new ⟨100, ⟨true, 16⟩⟩).withStrategy strategy, []⟩

def farReads : List (BatchRequest Unit) :=
  [.new () 1 0x03 0 10 0, .new () 1 0x03 100 10 1]

theorem reads_answered_in_sequence :
    Answered (.ofProcess fun _ => .ok ()) (coalescingProcessor .sequential) farReads := by
  refine (answered_iff_not_coalesced ⟨rfl, rfl, rfl, rfl⟩ ?_ (by decide) (by decide)).mpr ?_
  · intro requests
    exact length_map _
  · intro coalesced
    exact coalesced.2.2

abbrev queuedReads : Batching Unit :=
  final submitStep (coalescingProcessor .parallel) farReads

/-- `swap_remove` moves a request to an index that is passed over. -/
theorem reads_not_answered_in_parallel : (∃ after, flush (.ofProcess fun _ => .ok ())
        (Transducer.final submitStep (coalescingProcessor .parallel) farReads) = .ok 1 after ∧
      after.sent.map Prod.fst = [0]) ∧
      ¬Answered (.ofProcess fun _ => .ok ()) (coalescingProcessor .parallel) farReads := by
  have sorted : (numbered 1 farReads).mergeSort BatchRequest.keyLe = numbered 1 farReads :=
    mergeSort_of_pairwise (by decide)
  have coalesced : coalesceRequests (.ofProcess fun _ => .ok ()) (numbered 1 farReads)
      (cleared queuedReads) =
        .ok [⟨1, (), .normal, 1, 0x03, 0, 10, some 0⟩] (cleared queuedReads) := by
    rw [coalesceRequests, bind_ok (gets_apply _ _), if_neg (by decide), sorted]
    rfl
  have ran : ∃ middle, processBatch (.ofProcess fun _ => .ok ()) (numbered 1 farReads)
      (cleared queuedReads) = .ok 1 middle ∧ middle.sent.map Prod.fst = [0] := by
    have concurrent : Concurrent (cleared queuedReads).processor.strategy
        (numbered 1 farReads).length := trivial
    have enabled : (cleared queuedReads).processor.config.coalescing.enabled = true := rfl
    rw [(processBatch_cases _ _).1 concurrent, processParallel, bind_ok (gets_apply _ _),
      if_pos enabled, bind_ok coalesced]
    exact ⟨_, rfl, rfl⟩
  obtain ⟨middle, processed, channels⟩ := ran
  have filled : queuedReads.processor.pendingBatch ≠ [] := by decide
  obtain ⟨after, flushed, sent⟩ := flush_eq filled processed
  refine ⟨⟨after, flushed, by rw [sent, channels]⟩, ?_⟩
  exact not_answered_of_coalesced ⟨rfl, rfl, rfl, rfl⟩ (fun _ => length_map _) (by decide)
    ⟨rfl, by decide, trivial⟩

end

end BatchProcessor

end Mabinogion.Modbus
