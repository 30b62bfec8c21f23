import LineShell.Host.Recording
import LineShell.Proofs.Session.Coupling
/-!
A host whose every request is written down together with the answer. The shell cannot tell it from the
host that answers, nor from one that writes down no more than the requests.
-/

namespace LineShell

inductive Exchange
  | changeDir (dir : Path) (answer : Except IoError Unit)
  | run (invocation : Invocation) (answer : Except IoError ExitCode)

/-- The memory of a host together with the exchanges so far, the oldest first. -/
structure Transcript (Memory : Type) where
  inner : Memory
  exchanges : List Exchange := []

variable {Memory : Type}

def World.erased (world : World (Transcript Memory)) : World Memory :=
  { memory := world.memory.inner, system := world.system }

/-- The world after an exchange, as the host that answered left it. -/
def World.noting (world : World (Transcript Memory)) (exchange : Exchange) (after : World Memory) :
    World (Transcript Memory) :=
  { memory := { inner := after.memory, exchanges := world.memory.exchanges ++ [exchange] }
    system := after.system }

def Host.transcribing (host : Host Memory) : Host (Transcript Memory) where
  changeDir dir world :=
    let (answer, after) := host.changeDir dir world.erased
    (answer, world.noting (.changeDir dir answer) after)
  run invocation world :=
    let (answer, after) := host.run invocation world.erased
    (answer, world.noting (.run invocation answer) after)

namespace Session

def transcribed (session : Session Memory) : Session (Transcript Memory) :=
  { session with world := { memory := { inner := session.world.memory }, system := session.system } }

def erased (session : Session (Transcript Memory)) : Session Memory :=
  { session with world := session.world.erased }

def exchanges (session : Session (Transcript Memory)) : List Exchange :=
  session.world.memory.exchanges

@[simp] theorem transcribed_exchanges (session : Session Memory) : session.transcribed.exchanges = [] :=
  rfl

end Session

/-! ## The transcript changes nothing -/

theorem Host.transcribing_coupling (host : Host Memory) :
    Coupling Eq (fun first second => first.erased = second) host.transcribing host :=
  .of_carried (fun _ => rfl) (fun _ _ => rfl) (fun _ _ => rfl) (fun _ _ => rfl)

/-! ## The transcript without the answers -/

def Exchange.request : Exchange → Request
  | .changeDir dir _ => .changeDir dir
  | .run invocation _ => .run invocation

/-- The world of a host that keeps a record of what it is asked, and of what it was asked earlier. -/
def World.recorded (earlier : List Request) (world : World (Transcript Memory)) :
    World (Recorded Memory) :=
  { memory :=
      { inner := world.memory.inner
        requests := earlier ++ world.memory.exchanges.map Exchange.request }
    system := world.system }

theorem World.recorded_noting (earlier : List Request) (world : World (Transcript Memory))
    (exchange : Exchange) (after : World Memory) :
    (world.noting exchange after).recorded earlier =
      { memory :=
          { inner := after.memory
            requests := (world.recorded earlier).memory.requests ++ [exchange.request] }
        system := after.system } := by
  simp only [noting, recorded, List.map_append, List.map_cons, List.map_nil, List.append_assoc]

theorem Host.recording_coupling (host : Host Memory) (earlier : List Request) :
    Coupling Eq (fun first second => first.recorded earlier = second) host.transcribing
      host.recording :=
  .of_carried (fun _ => rfl) (fun _ _ => rfl)
    (fun dir before => Prod.ext rfl (World.recorded_noting earlier before (.changeDir dir _) _).symm)
    (fun invocation before =>
      Prod.ext rfl (World.recorded_noting earlier before (.run invocation _) _).symm)

namespace Session

def recorded (requests : List Request) (session : Session Memory) : Session (Recorded Memory) :=
  { session with
    world := { memory := { inner := session.world.memory, requests }, system := session.system } }

theorem transcribed_recorded (earlier : List Request) (session : Session Memory) :
    session.transcribed.carried (World.recorded earlier) = session.recorded earlier := by
  simp only [carried, transcribed, World.recorded, recorded, List.map_nil, List.append_nil]

end Session

end LineShell
