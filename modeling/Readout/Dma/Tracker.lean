import Readout.Dma.Superpage
import Readout.Memory

/-!
Superpages between push and pop: a bounded queue of those in transfer, whose pages go out and come
back oldest first, and a queue of those that are over.
-/

namespace Readout.Dma

/-- A superpage in transfer: its pages, those handed out and those that have arrived. -/
structure Transfer where
  superpage : Superpage
  pages : Nat
  pushed : Nat
  arrived : Nat
  deriving DecidableEq

namespace Transfer

def start (superpage : Superpage) (pages : Nat) : Transfer := ⟨superpage, pages, 0, 0⟩

/-- A page of it is still to be handed out. -/
def hasPageToPush (transfer : Transfer) : Bool := decide (transfer.pushed < transfer.pages)

/-- A page of it is out and has not arrived. -/
def hasPageInFlight (transfer : Transfer) : Bool := decide (transfer.arrived < transfer.pushed)

def isComplete (transfer : Transfer) : Bool := transfer.arrived == transfer.pages

def inFlight (transfer : Transfer) : Nat := transfer.pushed - transfer.arrived

/-- Where the next page to be handed out begins. -/
def nextOffset (transfer : Transfer) (pageSize : Nat) : Nat :=
  transfer.superpage.offset + transfer.pushed * pageSize

def pagePushed (transfer : Transfer) : Transfer := { transfer with pushed := transfer.pushed + 1 }

/-- The page has arrived whether or not its length is accepted; only an accepted length counts. -/
def pageArrived (transfer : Transfer) (pageSize length : Nat) :
    Except CountOverflow (Except DmaError Unit) × Transfer :=
  let transfer := { transfer with arrived := transfer.arrived + 1 }
  if pageSize < length then (.ok (.error (.pageOverrun length pageSize)), transfer)
  else
    match transfer.superpage.credit length with
    | .ok (.ok superpage) => (.ok (.ok ()), { transfer with superpage := superpage })
    | .ok (.error error) => (.ok (.error error), transfer)
    | .error overflow => (.error overflow, transfer)

/-- The superpage at the end of the transfer: ready if every page arrived, else as it is. -/
def finish (transfer : Transfer) : Superpage :=
  if transfer.isComplete then transfer.superpage.markReady else transfer.superpage

end Transfer

/-- `f` applied to the first element that `p` accepts. -/
def updateFirst {α : Type} (p : α → Bool) (f : α → α) : List α → List α
  | [] => []
  | a :: rest => if p a then f a :: rest else a :: updateFirst p f rest

@[simp] theorem length_updateFirst {α : Type} (p : α → Bool) (f : α → α) (l : List α) :
    (updateFirst p f l).length = l.length := by
  induction l with
  | nil => rfl
  | cons a rest ih => by_cases h : p a <;> simp [updateFirst, h, ih]

/-- The sum of `f` over the list. -/
def total {α : Type} (f : α → Nat) : List α → Nat
  | [] => 0
  | a :: rest => f a + total f rest

@[simp] theorem total_append {α : Type} (f : α → Nat) (l m : List α) :
    total f (l ++ m) = total f l + total f m := by
  induction l with
  | nil => simp [total]
  | cons a rest ih => simp [total, ih, Nat.add_assoc]

/-- The queues oldest first, and the offsets of the superpages in them. -/
structure Tracker where
  pageSize : Nat
  transferCapacity : Nat
  readyCapacity : Nat
  transfer : List Transfer
  ready : List Superpage
  live : List Nat
  deriving DecidableEq

namespace Tracker

def empty (pageSize transferCapacity readyCapacity : Nat) : Tracker :=
  ⟨pageSize, transferCapacity, readyCapacity, [], [], []⟩

/-- The bytes that a superpage takes in the transfer queue. -/
def transferEntryBytes : Nat := 64

/-- The bytes that a superpage takes in the ready queue. -/
def readyEntryBytes : Nat := 40

/-- Empty queues with room set aside for all that each of them can hold. -/
def allocate (pageSize transferCapacity readyCapacity : Nat) : Except CapacityOverflow Tracker := do
  reserve transferCapacity transferEntryBytes
  reserve readyCapacity readyEntryBytes
  return empty pageSize transferCapacity readyCapacity

theorem allocate_eq_ok {pageSize transferCapacity readyCapacity : Nat}
    (ht : transferCapacity * transferEntryBytes < memoryBound)
    (hr : readyCapacity * readyEntryBytes < memoryBound) :
    allocate pageSize transferCapacity readyCapacity =
      .ok (empty pageSize transferCapacity readyCapacity) := by
  unfold allocate
  rw [reserve_eq_ok_iff.mpr ht, reserve_eq_ok_iff.mpr hr]
  rfl

def isLive (tracker : Tracker) (offset : Nat) : Bool := tracker.live.contains offset

def transferAvailable (tracker : Tracker) : Nat :=
  tracker.transferCapacity - tracker.transfer.length

def isReadyFull (tracker : Tracker) : Bool :=
  decide (tracker.readyCapacity ≤ tracker.ready.length)

def pagesInFlight (tracker : Tracker) : Nat := total Transfer.inFlight tracker.transfer

/-- A superpage joins the transfers if the queue has room, it is whole pages and its offset is free. -/
def push (tracker : Tracker) (superpage : Superpage) : Except DmaError Tracker :=
  if tracker.transferCapacity ≤ tracker.transfer.length then .error .transferQueueFull
  else if superpage.size = 0 then .error .emptySuperpage
  else if tracker.pageSize = 0 ∨ superpage.size % tracker.pageSize ≠ 0 then
    .error (.sizeNotPageMultiple superpage.size tracker.pageSize)
  else if tracker.isLive superpage.offset then .error (.offsetInUse superpage.offset)
  else
    .ok { tracker with
      transfer := tracker.transfer ++ [.start superpage (superpage.size / tracker.pageSize)]
      live := tracker.live ++ [superpage.offset] }

/-- Where the next page to be handed out begins; asking does not take the page. -/
def nextPage (tracker : Tracker) : Option Nat :=
  (tracker.transfer.find? Transfer.hasPageToPush).map (·.nextOffset tracker.pageSize)

/-- The page of `nextPage` has been handed out. -/
def pagePushed (tracker : Tracker) : Tracker :=
  { tracker with
    transfer := updateFirst Transfer.hasPageToPush Transfer.pagePushed tracker.transfer }

/-- The oldest page in flight has arrived with `length` bytes. -/
def pageArrived (tracker : Tracker) (length : Nat) :
    Except CountOverflow (Except DmaError Unit) × Tracker :=
  match tracker.transfer.find? Transfer.hasPageInFlight with
  | none => (.ok (.error .unexpectedArrival), tracker)
  | some transfer =>
    let (result, next) := transfer.pageArrived tracker.pageSize length
    (result, { tracker with
      transfer := updateFirst Transfer.hasPageInFlight (fun _ => next) tracker.transfer })

/-- The complete transfers at the front for which the ready queue has room. -/
def promotable (tracker : Tracker) : List Transfer :=
  (tracker.transfer.takeWhile Transfer.isComplete).take
    (tracker.readyCapacity - tracker.ready.length)

/-- Complete superpages move to the ready queue while it has room; their number is the answer. -/
def promote (tracker : Tracker) : Nat × Tracker :=
  let moved := tracker.promotable
  (moved.length, { tracker with
    transfer := tracker.transfer.drop moved.length
    ready := tracker.ready ++ moved.map Transfer.finish })

/-- Every transfer ends, whatever room the ready queue has; their number is the answer. -/
def reclaim (tracker : Tracker) : Nat × Tracker :=
  (tracker.transfer.length, { tracker with
    transfer := []
    ready := tracker.ready ++ tracker.transfer.map Transfer.finish })

def front (tracker : Tracker) : Option Superpage := tracker.ready.head?

/-- The oldest superpage of the ready queue; its offset is free again. -/
def pop (tracker : Tracker) : Except DmaError (Superpage × Tracker) :=
  match tracker.ready with
  | [] => .error .readyQueueEmpty
  | superpage :: ready =>
    .ok (superpage, { tracker with
      ready := ready
      live := tracker.live.erase superpage.offset })

/-- Both queues emptied and every offset free. -/
def clear (tracker : Tracker) : Tracker :=
  empty tracker.pageSize tracker.transferCapacity tracker.readyCapacity

end Tracker

end Readout.Dma
