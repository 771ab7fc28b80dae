import RadiusSentry.Proofs.Queue.Line

/-!
# What the queue promises

Over any run that does not close it, the queue keeps its room, begins accepted jobs in order and
one at a time, refuses a job exactly when the room is full and counts it, lets the handle of a
job report its own result, goes on after a failure as after a success, and holds a flush back
until every job accepted before it has ended. The promises are the fields of `Queue.Orderly`;
since they hold after every run, they hold at every moment of one. Main statement:
`run_orderly`.
-/

set_option autoImplicit false

namespace RadiusSentry.Queue

variable {κ : Type}

/-- The flush that is begun after these moves has returned: flushes return in the order in which
they are begun. -/
def Returned (before : List (Move κ)) (notices : List (Notice κ)) : Prop :=
  (begun before).length < (flushed notices).length

/-- The queue after moves on an empty one. -/
def after (requested : Nat) (moves : List (Move κ)) : Queue κ :=
  ((ofCapacity requested).run moves).1

/-- What becomes of jobs and flushes by moves on an empty queue. -/
def history (requested : Nat) (moves : List (Move κ)) : List (Notice κ) :=
  ((ofCapacity requested).run moves).2

/-- What holds of a queue with the requested room after moves, and of the notices they gave. -/
structure Orderly (requested : Nat) (moves : List (Move κ)) (q : Queue κ)
    (notices : List (Notice κ)) : Prop where
  room : q.waiting.length ≤ max requested 1
  /-- accepted jobs are begun in order, and those that are not wait in order -/
  order : accepted notices = started notices ++ jobs q.waiting
  /-- of the jobs that were begun, all have ended but for one at most -/
  single : started notices = (ended notices).map Prod.fst ++ q.current ∧ q.current.length ≤ 1
  refuses : ∀ job, q.waiting.length = max requested 1 →
    q.step (.submit job) = ({ q with dropped := q.dropped + 1 }, [.refused job])
  accepts : ∀ job, q.waiting.length ≠ max requested 1 →
    q.step (.submit job) = ({ q with waiting := q.waiting ++ [.job job] }, [.accepted job])
  /-- a job that is handed in is accepted or refused -/
  submitted : (accepted notices ++ refused notices).Perm (submitted moves)
  inOrder : (accepted notices).Sublist (Queue.submitted moves)
  dropped : q.dropped = (refused notices).length
  /-- if no job is handed in twice, none is begun twice, and a refused one never is -/
  once : (Queue.submitted moves).Nodup →
    (started notices).Nodup ∧ ∀ job ∈ refused notices, job ∉ started notices
  /-- handles report of refused jobs that the queue is full, and of the others how they ended -/
  reports : (reports notices).Perm
    ((refused notices).map (fun job => (job, .error .queueFull)) ++ ended notices)
  returns : ∀ job result, q.running = some (.job job) →
    (q.step (.finish (.returned result))).2 = [.ended job result]
  crashes : ∀ job, q.running = some (.job job) →
    (q.step (.finish .crashed)).2 = [.ended job (.error .crashedJob)]
  /-- however an item ends, the worker is free for the next -/
  onward : ∀ item ending, q.running = some item →
    (q.step (.finish ending)).1 = { q with running := none } ∧
      ∀ job rest, q.waiting = .job job :: rest →
        ((q.step (.finish ending)).1.step .take).2 = [.started job]
  /-- however jobs end, the worker comes to all that were accepted and to every flush -/
  served : ∀ ending : κ → Ending,
    accepted notices =
      (ended (notices ++ (q.work fun job => some (ending job)).2)).map Prod.fst ∧
    begun moves = flushed (notices ++ (q.work fun job => some (ending job)).2) ∧
    ∀ own ∈ ended (q.work fun job => some (ending job)).2, own.2 = (ending own.1).result
  flushes : flushed notices <+: begun moves
  /-- a flush returns after every job that was accepted before it -/
  barrier : ∀ before number later, moves = before ++ .flush number :: later →
    Returned before notices →
      accepted (history requested before) <+: (ended notices).map Prod.fst

section Runs

variable (requested : Nat) {moves : List (Move κ)}

theorem accounted_ofCapacity (open_ : KeepOpen moves) :
    (ofCapacity requested : Queue κ).Accounted moves :=
  accounted_run (standing_ofCapacity requested) open_

/-- From an empty queue, what has joined is what was served and what is in line. -/
theorem joined_eq (open_ : KeepOpen moves) :
    (ofCapacity requested).joined moves =
      Queue.served (history requested moves) ++ (after requested moves).line :=
  (accounted_ofCapacity requested open_).line

theorem accepted_eq (open_ : KeepOpen moves) :
    accepted (history requested moves) =
      (ended (history requested moves)).map Prod.fst ++ jobs (after requested moves).line := by
  rw [← jobs_served, history, ← (accounted_ofCapacity requested open_).jobs, joined_eq requested open_]
  exact List.filterMap_append

theorem begun_eq (open_ : KeepOpen moves) :
    begun moves =
      flushed (history requested moves) ++ markers (after requested moves).line := by
  rw [← markers_served, ← (accounted_ofCapacity requested open_).markers,
    joined_eq requested open_]
  exact List.filterMap_append

theorem started_eq (open_ : KeepOpen moves) :
    started (history requested moves) =
      (ended (history requested moves)).map Prod.fst ++ (after requested moves).current :=
  (accounted_ofCapacity requested open_).current

/-- Flushes are no jobs. -/
theorem jobs_line (q : Queue κ) : jobs q.line = q.current ++ jobs q.waiting := by
  have none : jobs (q.blocked.map Item.marker : List (Item κ)) = [] := by
    induction q.blocked with
    | nil => rfl
    | cons number rest ih => exact ih
  rw [jobs, line, List.filterMap_append, List.filterMap_append, ← jobs, ← jobs, ← jobs, none,
    List.append_nil, current]

theorem accepted_eq_started (open_ : KeepOpen moves) :
    accepted (history requested moves) =
      started (history requested moves) ++ jobs (after requested moves).waiting := by
  rw [accepted_eq requested open_, started_eq requested open_, jobs_line, List.append_assoc]

/-- Without equal submissions the accepted jobs are distinct, and no refused one is among them. -/
theorem nodup_accepted (open_ : KeepOpen moves) (distinct : (submitted moves).Nodup) :
    (accepted (history requested moves)).Nodup ∧
      ∀ job ∈ refused (history requested moves), job ∉ accepted (history requested moves) := by
  have all := (accounted_ofCapacity requested open_).submitted.nodup_iff.2 distinct
  obtain ⟨first, -, apart⟩ := List.nodup_append.1 all
  exact ⟨first, fun job gone kept => apart job kept job gone rfl⟩

/-- What was served before a flush returned: everything that had joined before it. -/
theorem joined_isPrefix_served {before later : List (Move κ)} {number : Nat}
    (open_ : KeepOpen moves) (split : moves = before ++ .flush number :: later)
    (returned : Returned before (history requested moves)) :
    (ofCapacity requested).joined before <+: Queue.served (history requested moves) := by
  subst split
  have first : (ofCapacity requested).joined before <+:
      (ofCapacity requested).joined (before ++ .flush number :: later) := by
    rw [joined_append]
    exact List.prefix_append ..
  have done : Queue.served (history requested (before ++ .flush number :: later)) <+:
      (ofCapacity requested).joined (before ++ .flush number :: later) := by
    rw [joined_eq requested open_]
    exact List.prefix_append ..
  have openBefore : KeepOpen before :=
    fun move member => open_ move (List.mem_append_left _ member)
  rcases List.prefix_or_prefix_of_prefix first done with h | h
  · exact h
  · -- fewer flushes would have returned than were begun before
    have fewer := (h.filterMap Item.marker?).length_le
    have own := (accounted_ofCapacity requested openBefore).markers
    unfold Returned at returned
    rw [← markers_served, ← own] at returned
    exact absurd fewer (Nat.not_le.2 returned)

/-- When the worker is let go on, everything that was accepted ends and every flush returns. -/
theorem served_work (open_ : KeepOpen moves) (ending : κ → Ending) :
    accepted (history requested moves) = (ended (history requested moves ++
      ((after requested moves).work fun job => some (ending job)).2)).map Prod.fst ∧
    begun moves = flushed (history requested moves ++
      ((after requested moves).work fun job => some (ending job)).2) := by
  obtain ⟨work, worker, same⟩ :=
    exists_run_eq_work (after requested moves) fun job => some (ending job)
  have standing := (accounted_ofCapacity requested open_).standing
  have rest := line_work standing ending
  have emptied := (accounted_run standing worker.keepOpen).line
  have whole := joined_eq requested open_
  rw [after] at same
  rw [worker.joined, List.append_nil, same, rest, List.append_nil] at emptied
  have all : (ofCapacity requested).joined moves = Queue.served (history requested moves ++
      ((after requested moves).work fun job => some (ending job)).2) := by
    rw [whole, after, emptied, Queue.served, Queue.served, Queue.served, List.filterMap_append]
  constructor
  · rw [← jobs_served, ← all]
    exact (accounted_ofCapacity requested open_).jobs.symm
  · rw [← markers_served, ← all]
    exact (accounted_ofCapacity requested open_).markers.symm

/-- A queue that is not closed keeps its promises. -/
theorem run_orderly (requested : Nat) (moves : List (Move κ)) (open_ : KeepOpen moves) :
    Orderly requested moves (after requested moves) (history requested moves) := by
  have account := accounted_ofCapacity requested open_
  have standing : (after requested moves).Standing := account.standing
  have capacity : (after requested moves).capacity = max requested 1 := account.capacity
  constructor
  case room =>
    rw [← capacity]
    exact standing.room
  case order => exact accepted_eq_started requested open_
  case single =>
    refine ⟨started_eq requested open_, ?_⟩
    exact Nat.le_trans (List.length_filterMap_le ..) Option.length_toList_le
  case refuses =>
    intro job full
    rw [← capacity] at full
    exact submit_of_full standing ((isFull_iff standing).2 full) job
  case accepts =>
    intro job free
    rw [← capacity] at free
    have room : (after requested moves).isFull = false := by
      rw [← Bool.not_eq_true, isFull_iff standing]
      exact free
    exact submit_of_free standing room job
  case submitted => exact account.submitted
  case inOrder => exact account.inOrder
  case dropped => exact account.dropped.trans (Nat.zero_add _)
  case once =>
    intro distinct
    obtain ⟨unique, apart⟩ := nodup_accepted requested open_ distinct
    have begins := accepted_eq_started requested open_
    rw [begins] at unique apart
    refine ⟨(List.nodup_append.1 unique).1, fun job gone kept => ?_⟩
    exact apart job gone (List.mem_append_left _ kept)
  case reports => exact account.reports
  case returns =>
    intro job result busy
    rw [step, finish_of_some busy]
    rfl
  case crashes =>
    intro job busy
    rw [step, finish_of_some busy]
    rfl
  case onward =>
    intro item ending busy
    have done : (after requested moves).step (.finish ending) = _ := finish_of_some busy ending
    rw [done]
    refine ⟨rfl, fun job rest first => ?_⟩
    have next := take_of_cons (q := { after requested moves with running := none }) rfl first
    exact congrArg Prod.snd next
  case served =>
    intro ending
    obtain ⟨ends, returns⟩ := served_work requested open_ ending
    exact ⟨ends, returns, ended_work _ ending⟩
  case flushes =>
    rw [begun_eq requested open_]
    exact List.prefix_append ..
  case barrier =>
    intro before number later split returned
    have openBefore : KeepOpen before := by
      subst split
      exact fun move member => open_ move (List.mem_append_left _ member)
    have done := (joined_isPrefix_served requested open_ split returned).filterMap Item.job?
    rw [← jobs_served]
    rw [history, ← (accounted_ofCapacity requested openBefore).jobs]
    exact done

/-- A queue with room for one. The first job crashes while two more and a flush come in: the
second is accepted, the third finds no room, and neither does the fourth, because the flush has
got the place. -/
def crowdedMoves : List (Move Nat) :=
  [.submit 1, .take, .submit 2, .submit 3, .flush 0, .finish .crashed, .take, .submit 4,
    .finish (.returned (.error (.failedJob "disk gone"))), .take, .finish (.returned (.ok ()))]

/-- Two jobs were begun in order, two were refused, and the flush returned after both. -/
theorem run_orderly_crowdedMoves :
    KeepOpen crowdedMoves ∧
    accepted (history 0 crowdedMoves) = [1, 2] ∧
    refused (history 0 crowdedMoves) = [3, 4] ∧
    (after 0 crowdedMoves).dropped = 2 ∧
    [1, 2] <+: (ended (history 0 crowdedMoves)).map Prod.fst ∧
    4 ∉ started (history 0 crowdedMoves) := by
  have keepOpen : KeepOpen crowdedMoves := by
    intro move member closes
    subst closes
    simp [crowdedMoves] at member
  have orderly := run_orderly 0 crowdedMoves keepOpen
  have returned : Returned (crowdedMoves.take 4) (history 0 crowdedMoves) := by
    change 0 < 1
    decide
  exact ⟨keepOpen, rfl, rfl, orderly.dropped,
    orderly.barrier (crowdedMoves.take 4) 0 (crowdedMoves.drop 5) rfl returned,
    (orderly.once (by decide)).2 4 (by decide)⟩

end Runs

end RadiusSentry.Queue
