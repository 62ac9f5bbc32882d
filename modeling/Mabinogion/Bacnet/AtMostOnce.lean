import Mabinogion.Bacnet.Tsm

/-!
# At most one execution per window

A call on the transaction table removes expired entries, counts a duplicate, opens an entry,
or caches a response. So the table keeps its capacity, and an entry answers every request for
its key until the window is over.
-/

namespace Mabinogion.Bacnet.Tsm

open KeyedTable (Table)

/-- Some expired entries are gone and nothing else has happened to the table. -/
structure Pruned (tsm : ServerTsm) (now : Nat) (pruned : ServerTsm) : Prop where
  config : pruned.config = tsm.config
  smaller : KeyedTable.size pruned.transactions ≤ KeyedTable.size tsm.transactions
  sound : ∀ key entry, pruned.transactions.lookup key = some entry →
    tsm.transactions.lookup key = some entry
  keeps : ∀ key entry, tsm.transactions.lookup key = some entry →
    tsm.config.isLive now entry = true → pruned.transactions.lookup key = some entry

theorem Pruned.refl (tsm : ServerTsm) (now : Nat) : Pruned tsm now tsm :=
  ⟨rfl, le_refl _, fun _ _ present => present, fun _ _ present _ => present⟩

variable {now : Nat}

theorem Pruned.trans {first second third : ServerTsm} (left : Pruned first now second)
    (right : Pruned second now third) : Pruned first now third where
  config := right.config.trans left.config
  smaller := le_trans right.smaller left.smaller
  sound := fun key entry present => left.sound key entry (right.sound key entry present)
  keeps := by
    intro key entry present live
    apply right.keeps key entry (left.keeps key entry present live)
    rw [left.config]
    exact live

theorem Pruned.absent {tsm pruned : ServerTsm} (prune : Pruned tsm now pruned)
    (key : TransactionKey) (absent : tsm.transactions.lookup key = none) :
    pruned.transactions.lookup key = none := by
  cases found : pruned.transactions.lookup key with
  | none => rfl
  | some entry =>
    have present := prune.sound key entry found
    simp [absent] at present

theorem evict_expired_pruned (tsm : ServerTsm) (now : Nat) :
    Pruned tsm now (tsm.evictExpired now) where
  config := rfl
  smaller := KeyedTable.size_retain_le _ _
  sound := by
    intro key entry found
    change (KeyedTable.retain _ tsm.transactions).lookup key = some entry at found
    rw [KeyedTable.lookup_retain, Option.filter_eq_some_iff] at found
    exact found.1
  keeps := fun key entry present live =>
    KeyedTable.lookup_retain_kept _ tsm.transactions present live

variable {tsm : ServerTsm} {key : TransactionKey}

theorem erase_expired_pruned
    {entry : TransactionEntry} (present : tsm.transactions.lookup key = some entry)
    (expired : tsm.config.isLive now entry = false) :
    Pruned tsm now { tsm with transactions := tsm.transactions.erase key } where
  config := rfl
  smaller := KeyedTable.size_erase_le key tsm.transactions
  sound := by
    intro other found erased
    by_cases same : other = key
    · subst same
      simp at erased
    · rwa [AList.lookup_erase_ne same] at erased
  keeps := by
    intro other found foundPresent live
    have different : other ≠ key := by
      intro same
      subst same
      rw [present, Option.some.injEq] at foundPresent
      rw [← foundPresent, expired] at live
      exact Bool.noConfusion live
    rwa [AList.lookup_erase_ne different]

section

variable (tsm : ServerTsm) (now : Nat) (key : TransactionKey) (serviceChoice : UInt8)

/-- Everything `admitNew` can do. -/
theorem admit_new_cases (absent : tsm.transactions.lookup key = none) :
    (∃ pruned, Pruned tsm now pruned ∧
      tsm.admitNew now key serviceChoice = (.error .atCapacity, pruned)) ∨
    ∃ pruned, Pruned tsm now pruned ∧ pruned.transactions.lookup key = none ∧
      KeyedTable.size pruned.transactions < tsm.config.maxTransactions ∧
      tsm.admitNew now key serviceChoice = (.ok none, pruned.insertEntry now key serviceChoice) := by
  have evicted := evict_expired_pruned tsm now
  unfold ServerTsm.admitNew
  by_cases full : KeyedTable.size tsm.transactions ≥ tsm.config.maxTransactions
  · rw [if_pos full]
    by_cases stillFull :
        KeyedTable.size (tsm.evictExpired now).transactions ≥ tsm.config.maxTransactions
    · exact Or.inl ⟨_, evicted, if_pos stillFull⟩
    · exact Or.inr ⟨_, evicted, evicted.absent key absent, Nat.lt_of_not_le stillFull,
        if_neg stillFull⟩
  · rw [if_neg full]
    exact Or.inr ⟨tsm, Pruned.refl tsm now, absent, Nat.lt_of_not_le full, rfl⟩

/-- A duplicate is answered, the table is full, or a transaction is opened. -/
theorem begin_cases :
    (∃ entry, tsm.transactions.lookup key = some entry ∧ tsm.config.isLive now entry = true ∧
      tsm.beginTransaction now key serviceChoice = (entry.duplicateReply, { tsm with
        transactions := tsm.transactions.insert key
          { entry with duplicateCount := entry.duplicateCount + 1 }
        duplicateCount := tsm.duplicateCount + 1 })) ∨
    (∃ pruned, Pruned tsm now pruned ∧
      tsm.beginTransaction now key serviceChoice = (.error .atCapacity, pruned)) ∨
    ∃ pruned, Pruned tsm now pruned ∧ pruned.transactions.lookup key = none ∧
      KeyedTable.size pruned.transactions < tsm.config.maxTransactions ∧
      tsm.beginTransaction now key serviceChoice =
        (.ok none, pruned.insertEntry now key serviceChoice) := by
  unfold ServerTsm.beginTransaction
  cases found : tsm.transactions.lookup key with
  | none => exact Or.inr (admit_new_cases tsm now key serviceChoice found)
  | some entry =>
    cases live : tsm.config.isLive now entry with
    | true => exact Or.inl ⟨entry, rfl, live, by simp [live]⟩
    | false =>
      have erased := erase_expired_pruned found live
      have admitted := admit_new_cases { tsm with transactions := tsm.transactions.erase key }
        now key serviceChoice (AList.lookup_erase key tsm.transactions)
      simp only [live, Bool.false_eq_true, if_false]
      rcases admitted with ⟨pruned, prune, result⟩ | ⟨pruned, prune, absent, room, result⟩
      · exact Or.inr (Or.inl ⟨pruned, erased.trans prune, result⟩)
      · exact Or.inr (Or.inr ⟨pruned, erased.trans prune, absent, room, result⟩)

end

/-- A response is cached exactly when the transaction is completed. -/
def TransactionEntry.Coherent (entry : TransactionEntry) : Prop :=
  entry.state = match entry.cachedResponse with
    | none => .awaitingResponse
    | some _ => .completed

def duplicateAnswer : Option Bytes → Except TsmError (Option Bytes)
  | none => .error .duplicateInProgress
  | some response => .ok (some response)

structure Sound (config : TsmConfig) (tsm : ServerTsm) : Prop where
  configured : tsm.config = config
  bounded : KeyedTable.size tsm.transactions ≤ config.maxTransactions
  coherent : ∀ key entry, tsm.transactions.lookup key = some entry → entry.Coherent

theorem duplicate_reply_coherent {entry : TransactionEntry} (coherent : entry.Coherent) :
    entry.duplicateReply = duplicateAnswer entry.cachedResponse := by
  unfold TransactionEntry.Coherent at coherent
  cases cached : entry.cachedResponse with
  | none =>
    rw [cached] at coherent
    simp only [TransactionEntry.duplicateReply, coherent, duplicateAnswer]
  | some =>
    rw [cached] at coherent
    simp only [TransactionEntry.duplicateReply, coherent, cached, duplicateAnswer]

variable (config : TsmConfig)

theorem with_config_sound : Sound config (ServerTsm.withConfig config) where
  configured := rfl
  bounded := Nat.zero_le _
  coherent := by
    intro key entry present
    simp [ServerTsm.withConfig] at present

theorem pruned_sound {config : TsmConfig} {tsm pruned : ServerTsm}
    (sound : Sound config tsm) (prune : Pruned tsm now pruned) : Sound config pruned where
  configured := prune.config.trans sound.configured
  bounded := le_trans prune.smaller sound.bounded
  coherent := fun key entry present => sound.coherent key entry (prune.sound key entry present)

theorem insert_coherent (transactions : Table TransactionKey TransactionEntry)
    (key : TransactionKey) (entry : TransactionEntry) (fresh : entry.Coherent)
    (coherent : ∀ key entry, transactions.lookup key = some entry → entry.Coherent)
    (other : TransactionKey) (found : TransactionEntry)
    (present : (transactions.insert key entry).lookup other = some found) : found.Coherent := by
  by_cases same : other = key
  · subst same
    rw [AList.lookup_insert, Option.some.injEq] at present
    rwa [← present]
  · rw [AList.lookup_insert_ne same] at present
    exact coherent other found present

theorem begin_sound (now : Nat) (key : TransactionKey) (serviceChoice : UInt8)
    (sound : Sound config tsm) : Sound config (tsm.beginTransaction now key serviceChoice).2 := by
  rcases begin_cases tsm now key serviceChoice with
    ⟨entry, present, _, result⟩ | ⟨pruned, prune, result⟩ | ⟨pruned, prune, absent, room, result⟩
  · rw [result]
    constructor
    · exact sound.configured
    · rw [KeyedTable.size_insert_present key _ present]
      exact sound.bounded
    · exact insert_coherent _ key _ (sound.coherent key entry present) sound.coherent
  · rw [result]
    exact pruned_sound sound prune
  · have prunedSound := pruned_sound sound prune
    rw [result]
    constructor
    · exact prunedSound.configured
    · rw [sound.configured] at room
      change KeyedTable.size (pruned.transactions.insert key _) ≤ _
      rw [KeyedTable.size_insert_absent key _ pruned.transactions absent]
      exact room
    · exact insert_coherent _ key _ rfl prunedSound.coherent

theorem cache_response_sound (tsm : ServerTsm) (key : TransactionKey) (response : Bytes)
    (sound : Sound config tsm) : Sound config (tsm.cacheResponse key response) := by
  unfold ServerTsm.cacheResponse
  cases found : tsm.transactions.lookup key with
  | none => exact sound
  | some entry =>
    constructor
    · exact sound.configured
    · change KeyedTable.size (tsm.transactions.insert key _) ≤ _
      rw [KeyedTable.size_insert_present key _ found]
      exact sound.bounded
    · exact insert_coherent _ key _ rfl sound.coherent

theorem complete_transaction_state (tsm : ServerTsm) (key : TransactionKey)
    (response : Bytes) :
    (tsm.completeTransaction key response).2.transactions =
        (tsm.cacheResponse key response).transactions ∧
      (tsm.completeTransaction key response).2.config =
        (tsm.cacheResponse key response).config := by
  simp only [ServerTsm.completeTransaction]
  cases tsm.config.chaosDropThreshold with
  | none => exact ⟨rfl, rfl⟩
  | some =>
    simp only
    split_ifs
    · exact ⟨rfl, rfl⟩
    · exact ⟨rfl, rfl⟩

section

variable (key : TransactionKey)

theorem complete_sound (response : Bytes) (sound : Sound config tsm) :
    Sound config (tsm.completeTransaction key response).2 := by
  have cached := cache_response_sound config tsm key response sound
  obtain ⟨table, sameConfig⟩ := complete_transaction_state tsm key response
  constructor
  · rw [sameConfig]
    exact cached.configured
  · rw [table]
    exact cached.bounded
  · rw [table]
    exact cached.coherent

theorem step_sound (tsm : ServerTsm) (timed : Nat × Call) (sound : Sound config tsm) :
    Sound config (tsm.step timed).2 := by
  obtain ⟨now, call⟩ := timed
  cases call with
  | beginTransaction key serviceChoice => exact begin_sound config now key serviceChoice sound
  | completeTransaction key response => exact complete_sound config key response sound
  | cleanupExpired => exact pruned_sound sound (evict_expired_pruned tsm now)

def reached (config : TsmConfig) (calls : List (Nat × Call)) : ServerTsm :=
  Transducer.final ServerTsm.step (ServerTsm.withConfig config) calls

theorem reached_sound (calls : List (Nat × Call)) : Sound config (reached config calls) :=
  Transducer.final_invariant ServerTsm.step (step_sound config) _ calls (with_config_sound config)

/-- The transaction opened for the key at the given time, with the response
cached so far. -/
def Tracks (tsm : ServerTsm) (key : TransactionKey) (opened : Nat)
    (cached : Option Bytes) : Prop :=
  ∃ entry, tsm.transactions.lookup key = some entry ∧ entry.createdAt = opened ∧
    entry.cachedResponse = cached

def responseAfter (cached : Option Bytes) : Call → Option Bytes
  | .completeTransaction other response => if other = key then some response else cached
  | _ => cached

/-- The response of the last `complete_transaction` for the key. -/
def latestResponse (calls : List (Nat × Call)) : Option Bytes :=
  calls.foldl (fun cached timed => responseAfter key cached timed.2) none

end

section

variable {opened : Nat} {cached : Option Bytes}

section

variable (tracks : Tracks tsm key opened cached)

include tracks

theorem Tracks.prune {pruned : ServerTsm} (prune : Pruned tsm now pruned)
    (inWindow : now - opened ≤ tsm.config.duplicateWindow) : Tracks pruned key opened cached := by
  obtain ⟨entry, present, created, response⟩ := tracks
  subst created
  exact ⟨entry, prune.keeps key entry present (decide_eq_true inWindow), rfl, response⟩

theorem Tracks.insert_other (other : TransactionKey)
    (different : key ≠ other) (entry : TransactionEntry) (after : ServerTsm)
    (inserted : after.transactions = tsm.transactions.insert other entry) :
    Tracks after key opened cached := by
  obtain ⟨found, present, created, response⟩ := tracks
  exact ⟨found, by rw [inserted, AList.lookup_insert_ne different, present], created, response⟩

theorem begin_tracks (other : TransactionKey)
    (serviceChoice : UInt8) (inWindow : now - opened ≤ tsm.config.duplicateWindow) :
    Tracks (tsm.beginTransaction now other serviceChoice).2 key opened cached := by
  rcases begin_cases tsm now other serviceChoice with
    ⟨entry, present, _, result⟩ | ⟨pruned, prune, result⟩ | ⟨pruned, prune, absent, _, result⟩
  · rw [result]
    by_cases same : key = other
    · subst same
      obtain ⟨found, foundPresent, created, response⟩ := tracks
      rw [present, Option.some.injEq] at foundPresent
      subst foundPresent
      exact ⟨_, AList.lookup_insert _, created, response⟩
    · exact tracks.insert_other other same _ _ rfl
  · rw [result]
    exact tracks.prune prune inWindow
  · -- the key is present in the pruned table, so another one was opened
    have kept := tracks.prune prune inWindow
    have different : key ≠ other := by
      intro same
      obtain ⟨entry, present, _⟩ := kept
      rw [same, absent] at present
      simp at present
    rw [result]
    exact kept.insert_other other different _ _ rfl

theorem complete_tracks (other : TransactionKey) (response : Bytes) :
    Tracks (tsm.completeTransaction other response).2 key opened
      (responseAfter key cached (.completeTransaction other response)) := by
  have table := (complete_transaction_state tsm other response).1
  rw [ServerTsm.cacheResponse] at table
  by_cases same : other = key
  · subst same
    obtain ⟨entry, present, created, _⟩ := tracks
    rw [present] at table
    rw [responseAfter, if_pos rfl]
    exact ⟨{ entry with cachedResponse := some response, state := .completed },
      by rw [table]; exact AList.lookup_insert _, created, rfl⟩
  · rw [responseAfter, if_neg same]
    cases found : tsm.transactions.lookup other with
    | none =>
      rw [found] at table
      obtain ⟨entry, present, rest⟩ := tracks
      exact ⟨entry, by rw [table, present], rest⟩
    | some =>
      rw [found] at table
      exact tracks.insert_other other (Ne.symm same) _ _ table

theorem step_tracks {timed : Nat × Call}
    (inWindow : timed.1 - opened ≤ tsm.config.duplicateWindow) :
    Tracks (tsm.step timed).2 key opened (responseAfter key cached timed.2) := by
  obtain ⟨now, call⟩ := timed
  cases call with
  | beginTransaction other serviceChoice => exact begin_tracks tracks other serviceChoice inWindow
  | completeTransaction other response => exact complete_tracks tracks other response
  | cleanupExpired => exact tracks.prune (evict_expired_pruned tsm now) inWindow

end

theorem final_tracks {config : TsmConfig} {calls : List (Nat × Call)} (sound : Sound config tsm)
    (tracks : Tracks tsm key opened cached)
    (inWindow : ∀ timed ∈ calls, timed.1 - opened ≤ config.duplicateWindow) :
    Tracks (Transducer.final ServerTsm.step tsm calls) key opened
      (calls.foldl (fun cached timed => responseAfter key cached timed.2) cached) := by
  induction calls generalizing tsm cached with
  | nil => exact tracks
  | cons timed calls ih =>
    apply ih (step_sound config tsm timed sound)
    · apply step_tracks tracks
      rw [sound.configured]
      exact inWindow timed (by simp)
    · intro later member
      exact inWindow later (by simp [member])

end

theorem begin_opens {serviceChoice : UInt8} (sound : Sound config tsm)
    (opened : (tsm.beginTransaction now key serviceChoice).1 = .ok none) :
    (tsm.beginTransaction now key serviceChoice).2.transactions.lookup key =
      some ⟨now, serviceChoice, none, 0, .awaitingResponse⟩ := by
  rcases begin_cases tsm now key serviceChoice with
    ⟨entry, present, _, result⟩ | ⟨pruned, _, result⟩ | ⟨pruned, _, _, _, result⟩
  · rw [result, duplicate_reply_coherent (sound.coherent key entry present)] at opened
    cases cached : entry.cachedResponse with
    | none | some => simp [cached, duplicateAnswer] at opened
  · rw [result] at opened
    simp at opened
  · rw [result]
    exact AList.lookup_insert _

theorem begin_replays {serviceChoice : UInt8} (sound : Sound config tsm) {cached : Bytes}
    (replayed : (tsm.beginTransaction now key serviceChoice).1 = .ok (some cached)) :
    ∃ entry, tsm.transactions.lookup key =
      some entry ∧ now - entry.createdAt ≤ config.duplicateWindow ∧ entry.cachedResponse =
      some cached := by
  rcases begin_cases tsm now key serviceChoice with
    ⟨entry, present, live, result⟩ | ⟨pruned, _, result⟩ | ⟨pruned, _, _, _, result⟩
  · rw [result, duplicate_reply_coherent (sound.coherent key entry present)] at replayed
    rw [TsmConfig.isLive, sound.configured] at live
    refine ⟨entry, present, of_decide_eq_true live, ?_⟩
    cases found : entry.cachedResponse with
    | none => simp [found, duplicateAnswer] at replayed
    | some =>
      rw [found, duplicateAnswer, Except.ok.injEq] at replayed
      exact replayed
  · rw [result] at replayed
    simp at replayed
  · rw [result] at replayed
    simp at replayed

theorem tracked_reply (serviceChoice : UInt8)
    (sound : Sound config tsm) {opened : Nat} {cached : Option Bytes}
    (tracks : Tracks tsm key opened cached) (inWindow : now - opened ≤ config.duplicateWindow) :
    (tsm.beginTransaction now key serviceChoice).1 = duplicateAnswer cached := by
  obtain ⟨entry, present, created, response⟩ := tracks
  have live : tsm.config.isLive now entry = true := by
    rw [TsmConfig.isLive, sound.configured, created]
    exact decide_eq_true inWindow
  simp only [ServerTsm.beginTransaction, present, live, if_true]
  rw [duplicate_reply_coherent (sound.coherent key entry present), response]

/-- The table keeps its capacity; an open transaction is not executed again inside the window but
told to wait, or given the latest response; a full table refuses without touching a live entry. -/
theorem executes_at_most_once (config : TsmConfig) :
    (∀ calls, KeyedTable.size (reached config calls).transactions ≤ config.maxTransactions) ∧
    (∀ (before : List (Nat × Call)) opened key serviceChoice between reopened serviceAgain,
      Transducer.Chronological (before ++ (opened, .beginTransaction key serviceChoice) ::
        between ++ [(reopened, .beginTransaction key serviceAgain)]) →
      ((reached config before).beginTransaction opened key serviceChoice).1 = .ok none →
      reopened - opened ≤ config.duplicateWindow →
      ((reached config (before ++ (opened, .beginTransaction key serviceChoice) ::
          between)).beginTransaction reopened key serviceAgain).1 =
        duplicateAnswer (latestResponse key between)) ∧
    (∀ calls now key serviceChoice,
      ((reached config calls).beginTransaction now key serviceChoice).1 = .error .atCapacity →
      ∀ other entry, (reached config calls).transactions.lookup other = some entry →
        now - entry.createdAt ≤ config.duplicateWindow →
        ((reached config calls).beginTransaction now key serviceChoice).2.transactions.lookup
          other = some entry) := by
  refine ⟨fun calls => (reached_sound config calls).bounded, ?_, ?_⟩
  · intro before opened key serviceChoice between reopened serviceAgain ordered new inWindow
    have soundBefore := reached_sound config before
    have tracks : Tracks ((reached config before).beginTransaction opened key serviceChoice).2
        key opened none :=
      ⟨_, begin_opens config soundBefore new, rfl, rfl⟩
    have soundOpened := begin_sound config opened key serviceChoice soundBefore
    have upTo : ∀ timed ∈ between, timed.1 - opened ≤ config.duplicateWindow := by
      intro timed member
      have earlier : timed.1 ≤ reopened :=
        (List.pairwise_append.mp ordered).2.2 timed (by simp [member]) _ (List.mem_singleton_self _)
      omega
    have kept := final_tracks soundOpened tracks upTo
    have sameState : reached config (before ++ (opened, .beginTransaction key serviceChoice) ::
        between) = Transducer.final ServerTsm.step
          ((reached config before).beginTransaction opened key serviceChoice).2 between := by
      rw [reached, Transducer.final_append, Transducer.final_cons]
      rfl
    have sound := reached_sound config (before ++
      (opened, .beginTransaction key serviceChoice) :: between)
    rw [sameState] at sound ⊢
    exact tracked_reply config serviceAgain sound kept inWindow
  · intro calls now key serviceChoice full other entry present inWindow
    have sound := reached_sound config calls
    rcases begin_cases (reached config calls) now key serviceChoice with
      ⟨found, foundPresent, _, result⟩ | ⟨pruned, prune, result⟩ | ⟨pruned, _, _, _, result⟩
    · rw [result, duplicate_reply_coherent (sound.coherent key found foundPresent)] at full
      cases cached : found.cachedResponse with
      | none | some => simp [cached, duplicateAnswer] at full
    · rw [result]
      apply prune.keeps other entry present
      rw [TsmConfig.isLive, sound.configured]
      exact decide_eq_true inWindow
    · rw [result] at full
      simp at full

/-- A request is retransmitted before and after its response, and another client is refused. -/
theorem retransmission_executes_once : let config : TsmConfig := ⟨10, 1, none⟩
    let key : TransactionKey := ⟨.v4 2130706433 47808, 1⟩
    let other : TransactionKey := ⟨.v4 2130706433 47809, 1⟩
    ((reached config [(0, .beginTransaction key 12), (2, .beginTransaction other 12)]
        ).beginTransaction 3 key 12).1 = .error .duplicateInProgress ∧
      ((reached config [(0, .beginTransaction key 12), (4, .completeTransaction key [32, 1, 12])]
        ).beginTransaction 9 key 12).1 = .ok (some [32, 1, 12]) ∧
      (((reached config [(0, .beginTransaction key 12)]).beginTransaction 2 other 12
        ).2.transactions.lookup key).isSome := by
  intro config key other
  obtain ⟨_, duplicates, refusal⟩ := executes_at_most_once config
  refine ⟨duplicates [] 0 key 12 [(2, .beginTransaction other 12)] 3 12 (by decide) rfl (by decide),
    duplicates [] 0 key 12 [(4, .completeTransaction key [32, 1, 12])] 9 12 (by decide) rfl
      (by decide), ?_⟩
  rw [refusal [(0, .beginTransaction key 12)] 2 other 12 rfl key
    ⟨0, 12, none, 0, .awaitingResponse⟩ rfl (by decide)]
  rfl

end Mabinogion.Bacnet.Tsm
