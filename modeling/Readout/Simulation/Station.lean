import Readout.Channel.Lifecycle
import Readout.Simulation.LockTable

/-! Sessions that several parties have open on one system. -/

namespace Readout.Simulation

/-- The open sessions by party, at most one for each. -/
structure Station (ρ τ : Type) where
  table : LockTable
  sessions : List (String × Session ρ τ)

namespace Station

variable {ρ τ : Type}

def empty : Station ρ τ := ⟨.empty, []⟩

def session? (station : Station ρ τ) (party : String) : Option (Session ρ τ) :=
  station.sessions.lookup party

def remove (station : Station ρ τ) (party : String) : Station ρ τ :=
  { station with sessions := station.sessions.filter (·.1 != party) }

def put (station : Station ρ τ) (party : String) (session : Session ρ τ) : Station ρ τ :=
  { station with sessions := (station.remove party).sessions ++ [(party, session)] }

variable [PageTransport τ]

/-- Closes the party's session, if it has one; its port and its transport remain. -/
def close (station : Station ρ τ) (party : String) : Option (ρ × τ) × Station ρ τ :=
  match station.session? party with
  | none => (none, station)
  | some session =>
    let (port, transport, table) := session.close station.table
    (some (port, transport), { station.remove party with table := table })

/-- A party that is refused keeps the session it has; else that one is closed after the opening. -/
def openAt (station : Station ρ τ) (party : String) (config : ChannelConfig) (port : ρ)
    (transport : τ) (clock : Clock) :
    Except OpeningFault (Except Error (Session ρ τ)) × Station ρ τ :=
  let opening := Session.openOn config port transport clock station.table
  let station := { station with table := opening.host }
  match opening.result with
  | .ok (.ok session) => (.ok (.ok session), (station.close party).2.put party session)
  | refusal => (refusal, station)

/-- Closes every session, in the order of the parties' names. -/
def closeAll (station : Station ρ τ) : Station ρ τ :=
  let parties := (station.sessions.map (·.1)).mergeSort (fun a b => decide (a ≤ b))
  parties.foldl (fun station party => (station.close party).2) station

end Station

end Readout.Simulation
