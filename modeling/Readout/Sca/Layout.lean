import Readout.Card
import Readout.Sca.Error
import Readout.Time.Duration

/-! Where the slow-control block of each link lies, and how long to wait for it. -/

namespace Readout.Sca

structure Layout where
  base : Nat
  stride : Nat
  links : UInt32
  busyTimeout : Duration
  channelBusyTimeout : Duration
  deriving DecidableEq

namespace Layout

def defaultBusyTimeout : Duration := .ofMilliseconds 10
def defaultChannelBusyTimeout : Duration := .ofMilliseconds 10

def withDefaults (base stride : Nat) (links : UInt32) : Layout :=
  ⟨base, stride, links, defaultBusyTimeout, defaultChannelBusyTimeout⟩

def ofCard : Card → Layout
  | .crorc => withDefaults 12 20 2
  | .cru => withDefaults 0x1089000 0x8000 7
  | .dummy => withDefaults 0 0x100 1

/-- The index of the first register of the link's block. -/
def offset (layout : Layout) (link : UInt32) : Except ScaError Nat :=
  if link < layout.links then .ok (layout.base + link.toNat * layout.stride)
  else .error (.linkOutOfRange link layout.links)

theorem offset_eq_ok_iff {layout : Layout} {link : UInt32} {offset : Nat} :
    layout.offset link = .ok offset ↔
      link < layout.links ∧ layout.base + link.toNat * layout.stride = offset := by
  by_cases h : link < layout.links <;> simp [Layout.offset, h]

end Layout

end Readout.Sca
