import Readout.Card
import Readout.Dma.Buffer
import Readout.Error
import Readout.Lock.Basic

/-! How a DMA channel is set up. -/

namespace Readout

/-- Superpages and pages begin at multiples of this many bytes. -/
def offsetAlignment : Nat := 4

structure ChannelConfig where
  card : Card
  cardId : String
  channel : UInt32
  buffer : Dma.Buffer
  pageSize : Nat
  transferCapacity : Nat
  readyCapacity : Nat
  lockMode : LockMode
  deriving DecidableEq

namespace ChannelConfig

def defaultPageSize : Nat := 8192
def defaultTransferCapacity : Nat := 16
def defaultReadyCapacity : Nat := 32

/-- No buffer, the usual sizes, and no waiting for the lock. -/
def standard (card : Card) (cardId : String) (channel : UInt32) : ChannelConfig where
  card := card
  cardId := cardId
  channel := channel
  buffer := .null
  pageSize := defaultPageSize
  transferCapacity := defaultTransferCapacity
  readyCapacity := defaultReadyCapacity
  lockMode := .immediate

/-- The channel's number is part of the name only where channels are locked one by one. -/
def lockName (config : ChannelConfig) : String :=
  if config.card.locksEachChannel then
    s!"{Lock.dmaClass}{config.cardId}_chan{config.channel.toNat}{Lock.nameEnding}"
  else s!"{Lock.dmaClass}{config.cardId}{Lock.nameEnding}"

/-- Whole pages in the buffer; none if a page has no size. -/
def bufferPages (config : ChannelConfig) : Nat := config.buffer.size / config.pageSize

def checkBuffer (config : ChannelConfig) : Except ConfigError Unit :=
  if config.buffer.isUsable then .ok () else .error .invalidBuffer

/-- The first flaw, in the order channel, page size, queues, buffer. -/
def validate (config : ChannelConfig) : Except ConfigError Unit :=
  if ¬ config.card.hasChannel config.channel then .error (.invalidChannel config.channel)
  else if config.pageSize = 0 ∨ config.pageSize % offsetAlignment ≠ 0 then
    .error (.invalidPageSize config.pageSize)
  else if config.transferCapacity = 0 ∨ config.readyCapacity = 0 then .error .zeroQueueCapacity
  else config.checkBuffer

theorem validate_eq_ok_iff {config : ChannelConfig} :
    config.validate = .ok () ↔
      config.channel ≤ config.card.lastChannel ∧
      (0 < config.pageSize ∧ config.pageSize % offsetAlignment = 0) ∧
      (0 < config.transferCapacity ∧ 0 < config.readyCapacity) ∧
      config.buffer.isUsable = true := by
  simp only [validate, Card.hasChannel_iff]
  split
  next h => simp [h]
  next h =>
    simp only [Classical.not_not] at h
    split
    next hp => simp; omega
    next hp =>
      split
      next hq => simp; omega
      next hq =>
        simp only [checkBuffer]
        split
        next hb => simp [h, hb]; omega
        next hb => simp [hb]

end ChannelConfig

end Readout
