import Readout.Channel.Session

/-! One round of handing pages out, and one of asking for pages that have landed. -/

namespace Readout.Session

variable {ρ τ : Type} [PageTransport τ] {session : Session ρ τ} {page : Dma.Page} {transport : τ}
  {error : Error} {flow : Dma.Flow}

theorem pushPages_of_none (n : Nat) (h : session.flow.nextPage? = none) :
    (pushPages n).on session = (.ok (), session) := by
  cases n <;> simp [pushPages, Attempt.on_bind, h]

theorem pushPages_of_refused {n : Nat} (h : session.flow.nextPage? = some page)
    (hp : PageTransport.pushPage session.transport page = (.error error, transport)) :
    (pushPages (n + 1)).on session =
      (.error (.error error), { session with transport := transport }) := by
  simp [pushPages, Attempt.on_bind, h, hp]

theorem pushPages_of_taken {n : Nat} (h : session.flow.nextPage? = some page)
    (hp : PageTransport.pushPage session.transport page = (.ok (), transport))
    (hf : session.flow.handOut page = (.ok (), flow)) :
    (pushPages (n + 1)).on session =
      (pushPages n).on { session with transport := transport, flow := flow } := by
  simp [pushPages, Attempt.on_bind, h, hp, hf]

theorem collect_of_failed {rest : List Dma.Page}
    (hp : PageTransport.pollPage session.transport page = (.error error, transport)) :
    (collect (page :: rest)).on session =
      (.error (.error error), { session with transport := transport }) := by
  simp [collect, Attempt.on_bind, hp]

theorem collect_of_out {rest : List Dma.Page}
    (hp : PageTransport.pollPage session.transport page = (.ok none, transport)) :
    (collect (page :: rest)).on session = (.ok (), { session with transport := transport }) := by
  simp [collect, Attempt.on_bind, hp]

theorem collect_of_fault {rest : List Dma.Page} {length : Nat} {fault : Dma.FlowFault}
    (hp : PageTransport.pollPage session.transport page = (.ok (some length), transport))
    (hf : session.flow.land page length = (.error fault, flow)) :
    (collect (page :: rest)).on session =
      (.error (.fault fault), { session with transport := transport, flow := flow }) := by
  simp [collect, Attempt.on_bind, hp, hf]

theorem collect_of_uncredited {rest : List Dma.Page} {length : Nat} {dmaError : DmaError}
    (hp : PageTransport.pollPage session.transport page = (.ok (some length), transport))
    (hf : session.flow.land page length = (.ok (.error dmaError), flow)) :
    (collect (page :: rest)).on session =
      (.error (.error (.dma dmaError)),
        { session with transport := transport, flow := flow }) := by
  simp [collect, Attempt.on_bind, hp, hf]

theorem collect_of_credited {rest : List Dma.Page} {length : Nat}
    (hp : PageTransport.pollPage session.transport page = (.ok (some length), transport))
    (hf : session.flow.land page length = (.ok (.ok ()), flow)) :
    (collect (page :: rest)).on session =
      (collect rest).on { session with transport := transport, flow := flow } := by
  simp [collect, Attempt.on_bind, hp, hf]

end Readout.Session
