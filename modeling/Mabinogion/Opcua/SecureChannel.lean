import Mathlib.Data.List.Pairwise
import Mathlib.Data.List.ReduceOption
import Mabinogion.Library.Transducer
import Mabinogion.Library.Triple
import Mabinogion.Opcua.StructureRoundTrip

/-!
# Secure channels

A channel keeps the number of the last accepted message, and zero for none: where the last
accepted message had the number zero, every number is accepted again.
-/

namespace Mabinogion.Opcua

open Checked ByteCursor Transducer

structure SymmetricSecurityHeader where
  tokenId : UInt32

structure SequenceHeader where
  sequenceNumber : UInt32
  requestId : UInt32

structure SecureMessageBody where
  secureChannelId : UInt32
  securityHeader : SymmetricSecurityHeader
  sequenceHeader : SequenceHeader
  payload : Bytes

/-- The times are in nanoseconds. -/
structure SecureChannel where
  channelId : UInt32
  tokenId : UInt32
  clientSequenceNumber : UInt32
  serverSequenceNumber : UInt32
  tokenLifetimeMs : UInt32
  tokenCreatedAt : Nat

namespace SecureChannel

def defaultLifetimeMs : UInt32 := 3600000

/-- The identifiers come from counters that all channels share. -/
def newUnsecured (channelId tokenId : UInt32) (now : Nat) : SecureChannel where
  channelId
  tokenId
  clientSequenceNumber := 0
  serverSequenceNumber := 1
  tokenLifetimeMs := defaultLifetimeMs
  tokenCreatedAt := now

def validateSequenceNumber (received : UInt32) (self : SecureChannel) : Bool × SecureChannel :=
  if self.clientSequenceNumber ≠ 0 ∧ received ≤ self.clientSequenceNumber then (false, self)
  else (true, { self with clientSequenceNumber := received })

def expectedClientSequenceNumber (self : SecureChannel) : UInt32 :=
  if self.clientSequenceNumber = 0 then 1
  else if self.clientSequenceNumber = 0xFFFFFFFF then 0xFFFFFFFF
  else self.clientSequenceNumber + 1

def renewToken (newToken lifetimeMs : UInt32) (now : Nat) (self : SecureChannel) : SecureChannel :=
  { self with tokenId := newToken, tokenLifetimeMs := lifetimeMs, tokenCreatedAt := now }

def isTokenExpired (now : Nat) (self : SecureChannel) : Bool :=
  (now - self.tokenCreatedAt) / 1000000 > self.tokenLifetimeMs.toNat

def matchesToken (tokenId : UInt32) (self : SecureChannel) : Bool := self.tokenId = tokenId

/-- A requested lifetime of zero is the default one. -/
def revisedLifetimeMs (requestedLifetimeMs : UInt32) : UInt32 :=
  if requestedLifetimeMs = 0 then defaultLifetimeMs else requestedLifetimeMs

def validateMessage (now : Nat) (message : SecureMessageBody) :
    Checked SecureChannel OpcUaError Unit := do
  let channel ← gets id
  failIf (message.secureChannelId != channel.channelId)
    (.badSecureChannelId message.secureChannelId)
  failIf (!channel.matchesToken message.securityHeader.tokenId)
    (.badSecureChannelId message.securityHeader.tokenId)
  failIf (channel.isTokenExpired now) (.security "Secure channel token expired")
  let valid ← Checked.modifyGet (validateSequenceNumber message.sequenceHeader.sequenceNumber)
  let expected ← gets expectedClientSequenceNumber
  failIf (!valid) (.badSequenceNumber expected message.sequenceHeader.sequenceNumber)

inductive Event where
  | message (now : Nat) (message : SecureMessageBody)
  | renewal (now : Nat) (newToken requestedLifetimeMs : UInt32)

variable (channel : SecureChannel)

/-- The sequence number of the message, if it was accepted. -/
def handle : Event → Option UInt32 × SecureChannel
  | .message now message =>
    match validateMessage now message channel with
    | .ok _ after => (some message.sequenceHeader.sequenceNumber, after)
    | .err _ after => (none, after)
    | .fault _ => (none, channel)
  | .renewal now newToken requestedLifetimeMs =>
    (none, channel.renewToken newToken (revisedLifetimeMs requestedLifetimeMs) now)

def accepted (events : List Event) : List UInt32 :=
  (outputs handle channel events).reduceOption

/-- The number of a message with the channel's identifier and its unexpired token. -/
def offers : Event → Option UInt32
  | .message now message =>
    if message.secureChannelId = channel.channelId ∧
        message.securityHeader.tokenId = channel.tokenId ∧ channel.isTokenExpired now = false then
      some message.sequenceHeader.sequenceNumber
    else none
  | .renewal _ _ _ => none

def offered (events : List Event) : List UInt32 :=
  (arrivals handle channel events).filterMap fun arrival => offers arrival.1 arrival.2

/-- The numbers of a list that are accepted behind a last one. -/
def admitted : UInt32 → List UInt32 → List UInt32
  | _, [] => []
  | last, number :: numbers =>
    if last ≠ 0 ∧ number ≤ last then admitted last numbers
    else number :: admitted number numbers

section

variable {channel : SecureChannel} {now : Nat} {message : SecureMessageBody}

theorem validateMessage_foreign (foreign : offers channel (.message now message) = none) :
    ∃ error, validateMessage now message channel = .err error channel := by
  by_cases sameChannel : message.secureChannelId = channel.channelId
  · by_cases sameToken : message.securityHeader.tokenId = channel.tokenId
    · by_cases expired : channel.isTokenExpired now = true
      · refine ⟨.security "Secure channel token expired", ?_⟩
        simp [validateMessage, bind_apply, andThen, failIf, sameChannel, matchesToken, sameToken,
          expired]
      · simp [offers, sameChannel, sameToken, expired] at foreign
    · have other : ¬channel.tokenId = message.securityHeader.tokenId := fun same => sameToken same.symm
      refine ⟨.badSecureChannelId message.securityHeader.tokenId, ?_⟩
      simp [validateMessage, bind_apply, andThen, failIf, sameChannel, matchesToken, other]
  · refine ⟨.badSecureChannelId message.secureChannelId, ?_⟩
    simp [validateMessage, bind_apply, andThen, failIf, sameChannel]

theorem validateMessage_offered {number : UInt32}
    (offered : offers channel (.message now message) = some number) :
    number = message.sequenceHeader.sequenceNumber ∧ validateMessage now message channel =
        if channel.clientSequenceNumber ≠ 0 ∧ number ≤ channel.clientSequenceNumber then
          .err (.badSequenceNumber channel.expectedClientSequenceNumber number) channel
        else .ok () { channel with clientSequenceNumber := number } := by
  rw [offers] at offered
  split_ifs at offered with checks
  obtain ⟨sameChannel, sameToken, fresh⟩ := checks
  have same := Option.some.inj offered
  refine ⟨same.symm, ?_⟩
  rw [← same]
  by_cases stale : channel.clientSequenceNumber ≠ 0 ∧
      message.sequenceHeader.sequenceNumber ≤ channel.clientSequenceNumber
  · rw [if_pos stale]
    simp [validateMessage, bind_apply, andThen, failIf, sameChannel, matchesToken, sameToken, fresh,
      Checked.modifyGet, validateSequenceNumber, stale]
  · rw [if_neg stale]
    simp [validateMessage, bind_apply, andThen, failIf, sameChannel, matchesToken, sameToken, fresh,
      Checked.modifyGet, validateSequenceNumber, stale]

end

variable {channel : SecureChannel} {event : Event}

theorem handle_offered {number : UInt32} (offered : offers channel event = some number) :
    handle channel event =
      if channel.clientSequenceNumber ≠ 0 ∧ number ≤ channel.clientSequenceNumber then
        (none, channel)
      else (some number, { channel with clientSequenceNumber := number }) := by
  cases event with
  | renewal => cases offered
  | message =>
    obtain ⟨same, validated⟩ := validateMessage_offered offered
    rw [handle, validated, ← same]
    by_cases stale : channel.clientSequenceNumber ≠ 0 ∧ number ≤ channel.clientSequenceNumber
    · rw [if_pos stale, if_pos stale]
    · rw [if_neg stale, if_neg stale]

theorem handle_not_offered (foreign : offers channel event = none) :
    (handle channel event).1 = none ∧
      (handle channel event).2.clientSequenceNumber = channel.clientSequenceNumber := by
  cases event with
  | renewal => exact ⟨rfl, rfl⟩
  | message =>
    obtain ⟨error, refused⟩ := validateMessage_foreign foreign
    rw [handle, refused]
    exact ⟨rfl, rfl⟩

theorem rejected_unchanged (rejected : (handle channel event).1 = none) :
    (handle channel event).2.clientSequenceNumber = channel.clientSequenceNumber := by
  cases offered : offers channel event with
  | none => exact (handle_not_offered offered).2
  | some =>
    rw [handle_offered offered] at rejected ⊢
    split_ifs at rejected ⊢
    rfl

theorem accepted_eq_admitted (channel : SecureChannel) (events : List Event) :
    accepted channel events = admitted channel.clientSequenceNumber (offered channel events) := by
  induction events generalizing channel with
  | nil => simp [accepted, offered, arrivals, admitted]
  | cons event events ih =>
    have later := ih (handle channel event).2
    unfold accepted offered at later ⊢
    rw [outputs_cons, arrivals, List.filterMap_cons]
    cases known : offers channel event with
    | none =>
      obtain ⟨refused, same⟩ := handle_not_offered known
      rw [refused, List.reduceOption_cons_of_none, later, same]
    | some number =>
      rw [handle_offered known] at later ⊢
      simp only [admitted]
      by_cases stale : channel.clientSequenceNumber ≠ 0 ∧ number ≤ channel.clientSequenceNumber
      · rw [if_pos stale] at later ⊢
        rw [if_pos stale, List.reduceOption_cons_of_none, later]
      · rw [if_neg stale] at later ⊢
        rw [if_neg stale, List.reduceOption_cons_of_some, later]

theorem admitted_increasing {last : UInt32} (positive : last ≠ 0) (numbers : List UInt32) :
    (last :: admitted last numbers).Pairwise (· < ·) := by
  induction numbers generalizing last with
  | nil => simp [admitted]
  | cons number numbers ih =>
    rw [admitted]
    split_ifs with stale
    · exact ih positive
    · have larger : last < number := by
        apply UInt32.not_le.mp
        intro small
        exact stale ⟨positive, small⟩
      have nonzero : number ≠ 0 := by
        rintro rfl
        exact UInt32.not_lt_zero larger
      exact (ih nonzero).cons_cons_of_trans larger

/-- On a new channel the numbers increase unless zero is offered again before another number. -/
theorem admitted_zero_increasing_iff (numbers : List UInt32) :
    (admitted 0 numbers).Pairwise (· < ·) ↔ (numbers.takeWhile (· = 0)).length ≤ 1 := by
  cases numbers with
  | nil => simp [admitted]
  | cons first numbers =>
    by_cases zero : first = 0
    · subst zero
      cases numbers with
      | nil => simp [admitted]
      | cons second numbers =>
        by_cases again : second = 0
        · subst again
          simp [admitted]
        · have positive : 0 < second := UInt32.pos_iff_ne_zero.mpr again
          have increasing := (admitted_increasing again numbers).cons_cons_of_trans positive
          simpa [admitted, again] using increasing
    · have increasing := admitted_increasing zero numbers
      simpa [admitted, zero] using increasing

/-- No number is accepted twice, and what is not accepted leaves the number of the channel. -/
structure ReplaySafe (channel : SecureChannel) (events : List Event) : Prop where
  increasing : (accepted channel events).Pairwise (· < ·)
  unchanged : ∀ arrival ∈ arrivals handle channel events, (handle arrival.1 arrival.2).1 = none →
    (handle arrival.1 arrival.2).2.clientSequenceNumber = arrival.1.clientSequenceNumber

/-- Only the number zero is accepted twice, and only at the start. -/
theorem replay_safe_iff (channelId tokenId : UInt32) (created : Nat) (events : List Event) :
    ReplaySafe (newUnsecured channelId tokenId created) events ↔
      ((offered (newUnsecured channelId tokenId created) events).takeWhile (· = 0)).length ≤ 1 := by
  rw [← admitted_zero_increasing_iff]
  have accepted := accepted_eq_admitted (newUnsecured channelId tokenId created) events
  constructor
  · intro safe
    have increasing := safe.increasing
    rwa [accepted] at increasing
  · intro increasing
    constructor
    · rwa [accepted]
    · intro arrival _ rejected
      exact rejected_unchanged rejected

/-- Zero also stands for no message yet. -/
theorem zero_accepted_twice : accepted (newUnsecured 1 1 0)
        [.message 0 ⟨1, ⟨1⟩, ⟨0, 7⟩, []⟩, .message 0 ⟨1, ⟨1⟩, ⟨0, 7⟩, []⟩] = [0, 0] ∧
      ¬ReplaySafe (newUnsecured 1 1 0)
        [.message 0 ⟨1, ⟨1⟩, ⟨0, 7⟩, []⟩, .message 0 ⟨1, ⟨1⟩, ⟨0, 7⟩, []⟩] := by
  have twice : accepted (newUnsecured 1 1 0)
      [.message 0 ⟨1, ⟨1⟩, ⟨0, 7⟩, []⟩, .message 0 ⟨1, ⟨1⟩, ⟨0, 7⟩, []⟩] = [0, 0] := by
    decide
  refine ⟨twice, fun safe => ?_⟩
  have increasing := safe.increasing
  rw [twice] at increasing
  revert increasing
  decide

end SecureChannel

end Mabinogion.Opcua
