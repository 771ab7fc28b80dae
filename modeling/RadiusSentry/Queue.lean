import RadiusSentry.Event
import RadiusSentry.Plugin.Error

/-!
# The background queue

Jobs wait in a room of bounded size and are run one at a time, in the order they
came. A job that finds the room full is refused and counted, and one that finds
the queue closed is shut out; neither ever runs. A flush puts a marker behind the
jobs already there, waiting for room if need be, and returns when the worker
comes to it. How a job ends does not matter to the jobs behind it.

Every operation gives the queue after it and what became of jobs and flushes by
it, so that a history of the queue is the list of its notices.

Two limits of the machine are left out. The channel behind a queue can be made for
`2 ^ 61 - 1` items at most, and the program stops when it is asked for more; the refused
jobs are counted in 64 bits, so that the count starts again at zero with the job
numbered `2 ^ 64`.
-/

set_option autoImplicit false

namespace RadiusSentry

/-- How a job ends. -/
inductive Ending
  | returned (result : Except PluginError Unit)
  | crashed

/-- What the handle of a job reports after it has ended. -/
def Ending.result : Ending → Except PluginError Unit
  | .returned result => result
  | .crashed => .error .crashedJob

namespace Queue

/-- What waits for the worker. -/
inductive Item (κ : Type)
  | job (job : κ)
  | marker (flush : Nat)
deriving DecidableEq, Repr

/-- What becomes of a job or a flush. -/
inductive Notice (κ : Type)
  /-- a job got a place -/
  | accepted (job : κ)
  /-- a job found no place -/
  | refused (job : κ)
  /-- a job came after the queue was closed -/
  | shutOut (job : κ)
  /-- the worker began a job -/
  | started (job : κ)
  /-- a job ended with a result -/
  | ended (job : κ) (result : Except PluginError Unit)
  /-- the queue was closed before a job had ended -/
  | abandoned (job : κ)
  /-- a flush returned -/
  | flushed (flush : Nat)

namespace Notice

variable {κ : Type}

/-- What a job's handle reports from this notice on. -/
def outcome? : Notice κ → Option (κ × Except PluginError Unit)
  | .refused job => some (job, .error .queueFull)
  | .shutOut job | .abandoned job => some (job, .error .queueClosed)
  | .ended job result => some (job, result)
  | .accepted _ | .started _ | .flushed _ => none

def started? : Notice κ → Option κ
  | .started job => some job
  | _ => none

def event? : Notice κ → Option Event
  | .refused _ => some .jobDropped
  | .shutOut _ => some .queueClosed
  | .ended _ (.error e) => some (.jobFailed e.message)
  | _ => none

end Notice

end Queue

/-- Jobs of type `κ` on their way to the worker. -/
structure Queue (κ : Type) where
  /-- how many items may wait -/
  capacity : Nat
  closed : Bool := false
  /-- the items that wait, earliest first -/
  waiting : List (Queue.Item κ) := []
  /-- the flushes that wait for room, earliest first -/
  blocked : List Nat := []
  /-- the item the worker is at -/
  running : Option (Queue.Item κ) := none
  /-- how many jobs were refused; the program counts them modulo `2 ^ 64` -/
  dropped : Nat := 0
deriving DecidableEq, Repr

namespace Queue

variable {κ : Type}

def defaultCapacity : Nat := 10000

/-- An empty queue; there is room for one item at least. No channel is made for more than
`2 ^ 61 - 1` of them. -/
def ofCapacity (requested : Nat) : Queue κ where
  capacity := max requested 1

def isFull (q : Queue κ) : Bool :=
  q.capacity ≤ q.waiting.length

/-- Hands in a job, without waiting for anything. -/
def submit (q : Queue κ) (job : κ) : Queue κ × List (Notice κ) :=
  if q.closed then (q, [.shutOut job])
  else if q.isFull then ({ q with dropped := q.dropped + 1 }, [.refused job])
  else ({ q with waiting := q.waiting ++ [.job job] }, [.accepted job])

/-- Begins a flush. On a closed queue there is nothing to wait for. -/
def flush (q : Queue κ) (number : Nat) : Queue κ × List (Notice κ) :=
  if q.closed then (q, [.flushed number])
  else if q.isFull then ({ q with blocked := q.blocked ++ [number] }, [])
  else ({ q with waiting := q.waiting ++ [.marker number] }, [])

/-- The queue after a place has become free: the earliest blocked flush gets it. -/
def seatFlush (q : Queue κ) : Queue κ :=
  match q.blocked with
  | [] => q
  | number :: rest => { q with waiting := q.waiting ++ [.marker number], blocked := rest }

/-- An idle worker turns to the earliest item that waits. -/
def take (q : Queue κ) : Queue κ × List (Notice κ) :=
  match q.running, q.waiting with
  | none, .job job :: rest =>
    ({ q with running := some (.job job), waiting := rest }.seatFlush, [.started job])
  | none, .marker number :: rest =>
    ({ q with running := some (.marker number), waiting := rest }.seatFlush, [])
  | _, _ => (q, [])

/-- The item the worker is at ends. -/
def finish (q : Queue κ) (ending : Ending) : Queue κ × List (Notice κ) :=
  match q.running with
  | some (.job job) => ({ q with running := none }, [.ended job ending.result])
  | some (.marker number) => ({ q with running := none }, [.flushed number])
  | none => (q, [])

/-- What becomes of an item when the queue is closed. -/
def Item.leave : Item κ → Notice κ
  | .job j => .abandoned j
  | .marker number => .flushed number

/-- Closes the queue; nothing that has not ended will. -/
def close (q : Queue κ) : Queue κ × List (Notice κ) :=
  ({ q with closed := true, waiting := [], blocked := [], running := none },
    (q.running.toList ++ q.waiting).map Item.leave ++ q.blocked.map .flushed)

/-- One thing that happens to a queue. -/
inductive Move (κ : Type)
  | submit (job : κ)
  | flush (number : Nat)
  | take
  | finish (ending : Ending)
  | close

def step (q : Queue κ) : Move κ → Queue κ × List (Notice κ)
  | .submit job => q.submit job
  | .flush number => q.flush number
  | .take => q.take
  | .finish ending => q.finish ending
  | .close => q.close

/-- The queue after moves in order, and all their notices. -/
def run (q : Queue κ) : List (Move κ) → Queue κ × List (Notice κ)
  | [] => (q, [])
  | move :: rest =>
    let now := q.step move
    let later := now.1.run rest
    (later.1, now.2 ++ later.2)

/-- How the item the worker is at ends, if it does by itself. -/
def Item.ending? (ending? : κ → Option Ending) : Item κ → Option Ending
  | .job j => ending? j
  | .marker _ => some (.returned (.ok ()))

/-- The work that is left, counting the beginning and the end of every item. -/
def load (q : Queue κ) : Nat :=
  2 * (q.waiting.length + q.blocked.length) + q.running.toList.length

theorem load_seatFlush (q : Queue κ) : q.seatFlush.load = q.load := by
  unfold seatFlush load
  split
  · rfl
  · rename_i h
    simp [h]
    omega

theorem load_finish_lt {q : Queue κ} {item : Item κ} (h : q.running = some item)
    (ending : Ending) : (q.finish ending).1.load < q.load := by
  cases item <;> simp [finish, load, h]

theorem load_take_lt {q : Queue κ} (idle : q.running = none) {item : Item κ}
    {rest : List (Item κ)} (h : q.waiting = item :: rest) : q.take.1.load < q.load := by
  cases item <;> simp only [take, idle, h, load_seatFlush] <;> simp [load, idle, h] <;> omega

/-- Lets the worker go on until nothing waits or the job it is at does not end. -/
def work (q : Queue κ) (ending? : κ → Option Ending) : Queue κ × List (Notice κ) :=
  match _hr : q.running with
  | some item =>
    match item.ending? ending? with
    | none => (q, [])
    | some ending =>
      let later := (q.finish ending).1.work ending?
      (later.1, (q.finish ending).2 ++ later.2)
  | none =>
    match _hw : q.waiting with
    | [] => (q, [])
    | _ :: _ =>
      let later := q.take.1.work ending?
      (later.1, q.take.2 ++ later.2)
termination_by q.load
decreasing_by
  · exact load_finish_lt _hr ending
  · exact load_take_lt _hr _hw

def summary (q : Queue κ) : String :=
  "BackgroundQueue \x7b closed: " ++ toString q.closed ++ ", capacity: " ++ toString q.capacity
    ++ ", dropped: " ++ toString q.dropped ++ " \x7d"

end Queue

end RadiusSentry
