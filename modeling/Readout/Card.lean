/-! The card families: their names, their DMA channels and how far their locks reach. -/

namespace Readout

inductive Card where
  | crorc | cru | dummy
  deriving DecidableEq

/-- A text that names no card family. -/
structure UnknownCard where
  text : String
  deriving DecidableEq

def UnknownCard.message (error : UnknownCard) : String :=
  s!"unknown card type '{error.text}'"

namespace Card

def all : List Card := [.crorc, .cru, .dummy]

def name : Card → String
  | .crorc => "crorc"
  | .cru => "cru"
  | .dummy => "dummy"

/-- The spelling that a session uses to describe itself. -/
def label : Card → String
  | .crorc => "Crorc"
  | .cru => "Cru"
  | .dummy => "Dummy"

/-- The case of ASCII letters is ignored; blanks around a name are not. -/
def parse (text : String) : Except UnknownCard Card :=
  match all.find? (fun card => text.toLower == card.name) with
  | some card => .ok card
  | none => .error ⟨text⟩

/-- Channels are numbered from zero up to and including this one. -/
def lastChannel : Card → UInt32
  | .crorc => 5
  | .cru => 0
  | .dummy => 7

def hasChannel (card : Card) (channel : UInt32) : Bool :=
  decide (channel ≤ card.lastChannel)

/-- A C-RORC has one DMA engine for each channel, the others one for the whole card. -/
def locksEachChannel (card : Card) : Bool :=
  card == .crorc

@[simp] theorem hasChannel_iff {card : Card} {channel : UInt32} :
    card.hasChannel channel = true ↔ channel ≤ card.lastChannel := by
  simp [hasChannel]

end Card

end Readout
