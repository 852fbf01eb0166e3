import DecisionPoint.Service.Evaluating

/-!
# Requests and workers

A requester submits a job to the admission shell and waits for its result.  A worker takes jobs one
after another and evaluates them, whether or not the requester still waits.
-/

set_option autoImplicit false

namespace DecisionPoint

structure Ticket where
  shell : Nat
  number : Nat
deriving DecidableEq, Repr, Inhabited

inductive WorkerPhase where
  | fresh
  | idle
  | evaluating (job : Job) (evaluation : Evaluation)
deriving Inhabited

structure WorkerId where
  shell : Nat
  worker : Nat
deriving DecidableEq, Repr, Inhabited

namespace Service

/-- Submits a request: a refusal, or the ticket under which its result will be found. -/
def submit (service : Service) (request : Request) : Service × Except AdmissionFault Ticket :=
  match service.admission with
  | none => (service, .error .closed)
  | some number =>
    match service.shell? number with
    | none => (service, .error .closed)
    | some shell =>
      let (ticket, service) := service.freshNumber
      match shell.submit ⟨ticket, request⟩ with
      | .ok shell => (service.withShell number shell, .ok ⟨number, ticket⟩)
      | .error .busy =>
        ({ service.withShell number shell.refuse with journal := service.journal.rejected },
          .error .busy)
      | .error .closed => (service, .error .closed)

def answer? (service : Service) (ticket : Ticket) : Option FinalResult :=
  (service.shell? ticket.shell).bind fun shell => shell.answer? ticket.number

def leave (service : Service) (ticket : Ticket) : Service :=
  match service.shell? ticket.shell with
  | none => service
  | some shell => service.withShell ticket.shell (shell.leave ticket.number)

def collect (service : Service) (ticket : Ticket) : Service × Progress FinalResult Ticket :=
  match service.answer? ticket with
  | some result => (service.leave ticket, .done result)
  | none => (service, .waiting ticket)

/-! ## Workers -/

def updateShell (service : Service) (number : Nat) (update : Shell → Shell) : Service :=
  match service.shell? number with
  | none => service
  | some shell => service.withShell number (update shell)

/-- A worker in line takes jobs until it has to wait or ends; at most `jobs` of them. -/
def serve (service : Service) (now : Nat) (id : WorkerId) :
    Nat → Service × Progress Unit WorkerPhase
  | 0 => (service, .waiting .idle)
  | jobs + 1 =>
    match service.shell? id.shell with
    | none => (service, .done ())
    | some shell =>
      match shell.take id.worker with
      | none =>
        if shell.canGoOn id.worker then
          (service.withShell id.shell (shell.dismiss id.worker), .done ())
        else (service, .waiting .idle)
      | some (job, shell) =>
        match (service.withShell id.shell shell).evaluate now job.request with
        | (service, .waiting evaluation) => (service, .waiting (.evaluating job evaluation))
        | (service, .done result) =>
          let service :=
            service.updateShell id.shell fun shell =>
              (shell.finish id.worker job result).arrive id.worker
          serve service now id jobs

def queueLength (service : Service) (number : Nat) : Nat :=
  ((service.shell? number).map fun shell => shell.queue.length).getD 0

def runWorker (service : Service) (now : Nat) (id : WorkerId) :
    WorkerPhase → Service × Progress Unit WorkerPhase
  | .fresh =>
    let service := service.updateShell id.shell fun shell => shell.arrive id.worker
    service.serve now id (service.queueLength id.shell + 1)
  | .idle => service.serve now id (service.queueLength id.shell + 1)
  | .evaluating job evaluation =>
    match service.resumeEvaluation now evaluation with
    | (service, .waiting evaluation) => (service, .waiting (.evaluating job evaluation))
    | (service, .done result) =>
      let service :=
        service.updateShell id.shell fun shell =>
          (shell.finish id.worker job result).arrive id.worker
      service.serve now id (service.queueLength id.shell + 1)

def workerCanGoOn (service : Service) (now : Nat) (id : WorkerId) : WorkerPhase → Bool
  | .fresh => true
  | .idle => ((service.shell? id.shell).map fun shell => shell.canGoOn id.worker).getD true
  | .evaluating _ evaluation => hasCome now evaluation.wait.wake

end Service

end DecisionPoint
