import DecisionPoint.Fault
import DecisionPoint.Request.Basic
import DecisionPoint.Result

/-!
# Admission

Requests wait in a queue for one of a fixed number of workers.  A request that finds the queue full
is refused at once.  Idle workers take turns: the first in line has the queue, and each worker that
has finished goes to the end of the line.  When the shell is closed, what was accepted is still
evaluated, and a worker ends when no requester waits any more.
-/

set_option autoImplicit false

namespace DecisionPoint

/-- How many requests are evaluated at once and how many may wait. -/
structure AdmissionOptions where
  maxRequests : UInt64
  /-- How many requests may wait; any number, if there is none. -/
  queueCapacity : Option UInt64
deriving DecidableEq, Repr, Inhabited

def AdmissionOptions.default : AdmissionOptions :=
  ⟨200, some 500⟩

structure Job where
  number : Nat
  request : Request
deriving Inhabited

/-- The queue, the workers and the requesters. -/
structure Shell where
  capacity : Option Nat
  queue : List Job
  idle : List Nat
  running : List (Nat × Job)
  answers : List (Nat × FinalResult)
  requesters : List Nat
  isOpen : Bool
  alive : Nat
  accepted : UInt64
  rejected : UInt64
deriving Inhabited

namespace Shell

def start (options : AdmissionOptions) : Except ServiceFault Shell :=
  if options.maxRequests = 0 then .error (.config "max_requests must be at least 1")
  else if options.queueCapacity = some 0 then
    .error (.config "request queue capacity must be at least 1")
  else
    .ok ⟨options.queueCapacity.map UInt64.toNat, [], [], [], [], [], true,
      options.maxRequests.toNat, 0, 0⟩

def isFull (shell : Shell) : Bool :=
  match shell.capacity with
  | none => false
  | some capacity => capacity ≤ shell.queue.length

def submit (shell : Shell) (job : Job) : Except AdmissionFault Shell :=
  if shell.isOpen = false then .error .closed
  else if shell.isFull then .error .busy
  else
    .ok
      { shell with
        queue := shell.queue ++ [job]
        requesters := shell.requesters ++ [job.number]
        accepted := shell.accepted + 1 }

def refuse (shell : Shell) : Shell :=
  { shell with rejected := shell.rejected + 1 }

def arrive (shell : Shell) (worker : Nat) : Shell :=
  { shell with idle := shell.idle ++ [worker] }

/-- The first worker in line takes the first job. -/
def take (shell : Shell) (worker : Nat) : Option (Job × Shell) :=
  match shell.idle, shell.queue with
  | first :: idle, job :: queue =>
    if first = worker then
      some (job,
        { shell with idle := idle, queue := queue, running := shell.running ++ [(worker, job)] })
    else none
  | _, _ => none

/-- A worker has finished its job; the result is kept if its requester still waits. -/
def finish (shell : Shell) (worker : Nat) (job : Job) (result : FinalResult) : Shell :=
  { shell with
    running := shell.running.filter fun item => item.1 ≠ worker
    answers :=
      if job.number ∈ shell.requesters then shell.answers ++ [(job.number, result)]
      else shell.answers }

/-- The requester of a job goes away, with its result or without. -/
def leave (shell : Shell) (number : Nat) : Shell :=
  { shell with
    requesters := shell.requesters.filter (· ≠ number)
    answers := shell.answers.filter fun item => item.1 ≠ number }

def answer? (shell : Shell) (number : Nat) : Option FinalResult :=
  shell.answers.lookup number

def close (shell : Shell) : Shell :=
  { shell with isOpen := false }

/-- Whether idle workers have nothing to wait for. -/
def isDone (shell : Shell) : Bool :=
  shell.isOpen = false && shell.requesters.isEmpty && shell.queue.isEmpty

def canGoOn (shell : Shell) (worker : Nat) : Bool :=
  shell.idle.head? = some worker && (shell.queue.isEmpty = false || shell.isDone)

def dismiss (shell : Shell) (worker : Nat) : Shell :=
  { shell with idle := shell.idle.filter (· ≠ worker), alive := shell.alive - 1 }

end Shell

end DecisionPoint
