import RadiusSentry.Queue

/-!
# The line before the worker

Accepted jobs and begun flushes stand in one line: the item the worker is at, then the items
that wait, then the flushes that wait for room (`Queue.line`). Of a queue that is not closed
(`Queue.Standing`), moves only add at the end of this line and take away at its front, so that
what has joined is what was served and what is still in line (`line_run`). The worker, left to
itself, serves the whole line (`line_work`).
-/

set_option autoImplicit false

namespace RadiusSentry.Queue

variable {κ : Type}

section Observations

/-- The job of an item. -/
def Item.job? : Item κ → Option κ
  | .job j => some j
  | .marker _ => none

/-- The flush of an item. -/
def Item.marker? : Item κ → Option Nat
  | .job _ => none
  | .marker number => some number

def jobs (items : List (Item κ)) : List κ :=
  items.filterMap Item.job?

def markers (items : List (Item κ)) : List Nat :=
  items.filterMap Item.marker?

def Notice.accepted? : Notice κ → Option κ
  | .accepted job => some job
  | _ => none

def Notice.refused? : Notice κ → Option κ
  | .refused job => some job
  | _ => none

def Notice.ended? : Notice κ → Option (κ × Except PluginError Unit)
  | .ended job result => some (job, result)
  | _ => none

def Notice.flushed? : Notice κ → Option Nat
  | .flushed number => some number
  | _ => none

/-- The item that is served with a notice. -/
def Notice.served? : Notice κ → Option (Item κ)
  | .ended job _ => some (.job job)
  | .flushed number => some (.marker number)
  | _ => none

variable (notices : List (Notice κ))

/-- The jobs that were accepted, in order. -/
def accepted : List κ :=
  notices.filterMap Notice.accepted?

/-- The jobs that were refused, in order. -/
def refused : List κ :=
  notices.filterMap Notice.refused?

/-- The jobs that were begun, in order. -/
def started : List κ :=
  notices.filterMap Notice.started?

/-- The jobs that ended and what their handles report, in order. -/
def ended : List (κ × Except PluginError Unit) :=
  notices.filterMap Notice.ended?

/-- The flushes that returned, in order. -/
def flushed : List Nat :=
  notices.filterMap Notice.flushed?

/-- What the handles of jobs report, in order. -/
def reports : List (κ × Except PluginError Unit) :=
  notices.filterMap Notice.outcome?

/-- The items that were served, in order. -/
def served : List (Item κ) :=
  notices.filterMap Notice.served?

theorem jobs_served : jobs (served notices) = (ended notices).map Prod.fst := by
  rw [jobs, served, ended, List.filterMap_filterMap, List.map_filterMap]
  congr 1
  funext notice
  cases notice <;> rfl

theorem markers_served : markers (served notices) = flushed notices := by
  rw [markers, served, flushed, List.filterMap_filterMap]
  congr 1
  funext notice
  cases notice <;> rfl

variable (moves : List (Move κ))

def Move.submitted? : Move κ → Option κ
  | .submit job => some job
  | _ => none

def Move.flush? : Move κ → Option Nat
  | .flush number => some number
  | _ => none

/-- The jobs that are handed in, in order. -/
def submitted : List κ :=
  moves.filterMap Move.submitted?

/-- The flushes that are begun, in order. -/
def begun : List Nat :=
  moves.filterMap Move.flush?

end Observations

/-- The items that have joined and are not served yet, earliest first. -/
def line (q : Queue κ) : List (Item κ) :=
  q.running.toList ++ q.waiting ++ q.blocked.map .marker

/-- The job the worker is at, if it is at one. -/
def current (q : Queue κ) : List κ :=
  jobs q.running.toList

/-- What a move puts into line. -/
def joining (q : Queue κ) : Move κ → List (Item κ)
  | .submit job => if q.isFull then [] else [.job job]
  | .flush number => [.marker number]
  | _ => []

/-- What moves put into line, in order. -/
def joined (q : Queue κ) : List (Move κ) → List (Item κ)
  | [] => []
  | move :: rest => q.joining move ++ (q.step move).1.joined rest

/-- A queue that is not closed. A flush waits for room only while there is none. -/
structure Standing (q : Queue κ) : Prop where
  standing : q.closed = false
  positive : 0 < q.capacity
  room : q.waiting.length ≤ q.capacity
  blocked : q.blocked ≠ [] → q.waiting.length = q.capacity

theorem standing_ofCapacity (requested : Nat) : (ofCapacity requested : Queue κ).Standing where
  standing := rfl
  positive := Nat.le_max_right requested 1
  room := Nat.zero_le _
  blocked := fun none => absurd rfl none

section Steps

variable {q : Queue κ}

theorem isFull_iff (h : q.Standing) : q.isFull = true ↔ q.waiting.length = q.capacity := by
  have room := h.room
  simp only [isFull, decide_eq_true_eq]
  omega

/-- Where there is room, no flush waits for it. -/
theorem Standing.unblocked (h : q.Standing) (free : q.isFull = false) : q.blocked = [] := by
  by_cases none : q.blocked = []
  · exact none
  · have full := (isFull_iff h).2 (h.blocked none)
    rw [full] at free
    cases free

theorem submit_of_full (h : q.Standing) (full : q.isFull = true) (job : κ) :
    q.submit job = ({ q with dropped := q.dropped + 1 }, [.refused job]) := by
  simp [submit, h.standing, full]

theorem submit_of_free (h : q.Standing) (free : q.isFull = false) (job : κ) :
    q.submit job = ({ q with waiting := q.waiting ++ [.job job] }, [.accepted job]) := by
  simp [submit, h.standing, free]

theorem flush_of_full (h : q.Standing) (full : q.isFull = true) (number : Nat) :
    q.flush number = ({ q with blocked := q.blocked ++ [number] }, []) := by
  simp [flush, h.standing, full]

theorem flush_of_free (h : q.Standing) (free : q.isFull = false) (number : Nat) :
    q.flush number = ({ q with waiting := q.waiting ++ [.marker number] }, []) := by
  simp [flush, h.standing, free]

/-- What the worker reports when it turns to an item. -/
def Item.startNotices : Item κ → List (Notice κ)
  | .job j => [.started j]
  | .marker _ => []

theorem take_of_cons (idle : q.running = none) {item : Item κ} {rest : List (Item κ)}
    (h : q.waiting = item :: rest) :
    q.take = ({ q with running := some item, waiting := rest }.seatFlush, item.startNotices) := by
  cases item <;> simp [take, idle, h, Item.startNotices]

/-- What is reported when an item is served. -/
def Item.endNotice (ending : Ending) : Item κ → Notice κ
  | .job j => .ended j ending.result
  | .marker number => .flushed number

theorem finish_of_some {item : Item κ} (h : q.running = some item) (ending : Ending) :
    q.finish ending = ({ q with running := none }, [item.endNotice ending]) := by
  cases item <;> simp [finish, h, Item.endNotice]

theorem finish_of_none (h : q.running = none) (ending : Ending) : q.finish ending = (q, []) := by
  simp [finish, h]

/-- What one move can be to a queue that is not closed. -/
inductive Moved (q : Queue κ) : Move κ → Queue κ → List (Notice κ) → Prop
  | refuse (job : κ) (full : q.isFull = true) :
      Moved q (.submit job) { q with dropped := q.dropped + 1 } [.refused job]
  | accept (job : κ) (free : q.isFull = false) :
      Moved q (.submit job) { q with waiting := q.waiting ++ [.job job] } [.accepted job]
  | block (number : Nat) (full : q.isFull = true) :
      Moved q (.flush number) { q with blocked := q.blocked ++ [number] } []
  | seat (number : Nat) (free : q.isFull = false) :
      Moved q (.flush number) { q with waiting := q.waiting ++ [.marker number] } []
  | begins (item : Item κ) (rest : List (Item κ)) (idle : q.running = none)
      (first : q.waiting = item :: rest) :
      Moved q .take { q with running := some item, waiting := rest }.seatFlush item.startNotices
  | serve (item : Item κ) (ending : Ending) (busy : q.running = some item) :
      Moved q (.finish ending) { q with running := none } [item.endNotice ending]
  | rest (move : Move κ) (worker : move = .take ∨ ∃ ending, move = .finish ending) :
      Moved q move q []

theorem moved (h : q.Standing) (move : Move κ) (open_ : move ≠ .close) :
    Moved q move (q.step move).1 (q.step move).2 := by
  cases move with
  | submit job =>
    cases room : q.isFull with
    | true =>
      rw [step, submit_of_full h room]
      exact .refuse job room
    | false =>
      rw [step, submit_of_free h room]
      exact .accept job room
  | flush number =>
    cases room : q.isFull with
    | true =>
      rw [step, flush_of_full h room]
      exact .block number room
    | false =>
      rw [step, flush_of_free h room]
      exact .seat number room
  | take =>
    cases worker : q.running with
    | some item =>
      have busy : q.take = (q, []) := by simp [take, worker]
      rw [step, busy]
      exact .rest _ (.inl rfl)
    | none =>
      cases first : q.waiting with
      | nil =>
        have empty : q.take = (q, []) := by simp [take, worker, first]
        rw [step, empty]
        exact .rest _ (.inl rfl)
      | cons item rest =>
        rw [step, take_of_cons worker first]
        exact .begins item rest worker first
  | finish ending =>
    cases worker : q.running with
    | some item =>
      rw [step, finish_of_some worker]
      exact .serve item ending worker
    | none =>
      rw [step, finish_of_none worker]
      exact .rest _ (.inr ⟨ending, rfl⟩)
  | close => exact absurd rfl open_

/-- A place that becomes free goes to the flush that has waited longest, so that the line stays
as it is. -/
theorem line_seatFlush (q : Queue κ) : q.seatFlush.line = q.line := by
  unfold seatFlush
  split
  · rfl
  · rename_i number rest h
    simp [line, h]

@[simp] theorem running_seatFlush (q : Queue κ) : q.seatFlush.running = q.running := by
  unfold seatFlush
  split <;> rfl

@[simp] theorem dropped_seatFlush (q : Queue κ) : q.seatFlush.dropped = q.dropped := by
  unfold seatFlush
  split <;> rfl

@[simp] theorem capacity_seatFlush (q : Queue κ) : q.seatFlush.capacity = q.capacity := by
  unfold seatFlush
  split <;> rfl

variable {move : Move κ} {next : Queue κ} {notices : List (Notice κ)}

theorem Moved.capacity (h : q.Moved move next notices) : next.capacity = q.capacity := by
  cases h <;> simp

theorem Moved.standing (h : q.Moved move next notices) (before : q.Standing) :
    next.Standing := by
  obtain ⟨standing, positive, room, blocked⟩ := before
  cases h with
  | refuse job full => exact ⟨standing, positive, room, blocked⟩
  | accept job free =>
    have unblocked := Standing.unblocked ⟨standing, positive, room, blocked⟩ free
    simp only [isFull, decide_eq_false_iff_not] at free
    refine ⟨standing, positive, ?_, fun some => absurd unblocked some⟩
    simp only [List.length_append, List.length_singleton]
    omega
  | block number full =>
    simp only [isFull, decide_eq_true_eq] at full
    exact ⟨standing, positive, room, fun _ => Nat.le_antisymm room full⟩
  | seat number free =>
    have unblocked := Standing.unblocked ⟨standing, positive, room, blocked⟩ free
    simp only [isFull, decide_eq_false_iff_not] at free
    refine ⟨standing, positive, ?_, fun some => absurd unblocked some⟩
    simp only [List.length_append, List.length_singleton]
    omega
  | begins item rest idle first =>
    rw [first, List.length_cons] at room
    unfold seatFlush
    split
    · rename_i none
      exact ⟨standing, positive, by simp only; omega, fun some => absurd none some⟩
    · rename_i number others some
      simp only at some
      have full := blocked (by simp [some])
      rw [first, List.length_cons] at full
      have same : (rest ++ [Item.marker number]).length = q.capacity := by
        rw [List.length_append, List.length_singleton]
        exact full
      exact ⟨standing, positive, Nat.le_of_eq same, fun _ => same⟩
  | serve item ending busy => exact ⟨standing, positive, room, blocked⟩
  | rest move worker => exact ⟨standing, positive, room, blocked⟩

/-- A move adds to the end of the line and serves its front. -/
theorem Moved.line (h : q.Moved move next notices) (before : q.Standing) :
    q.line ++ q.joining move = served notices ++ next.line := by
  cases h with
  | refuse job full => simp [joining, full, served, Notice.served?, Queue.line]
  | accept job free =>
    simp [joining, free, served, Notice.served?, Queue.line, before.unblocked free]
  | block number full => simp [joining, served, Queue.line]
  | seat number free => simp [joining, served, Queue.line, before.unblocked free]
  | begins item rest idle first =>
    have none : served (item.startNotices : List (Notice κ)) = [] := by cases item <;> rfl
    rw [line_seatFlush, none]
    simp [joining, Queue.line, idle, first]
  | serve item ending busy =>
    have one : served [item.endNotice ending] = [item] := by cases item <;> rfl
    rw [one]
    simp [joining, Queue.line, busy]
  | rest move worker => rcases worker with rfl | ⟨ending, rfl⟩ <;> simp [joining, served]

/-- A job is begun when the worker turns to it, and ends before the worker turns to another. -/
theorem Moved.current (h : q.Moved move next notices) :
    q.current ++ started notices = (ended notices).map Prod.fst ++ next.current := by
  cases h with
  | begins item rest idle first =>
    rw [Queue.current, Queue.current, running_seatFlush, idle]
    cases item <;> rfl
  | serve item ending busy =>
    rw [Queue.current, Queue.current, busy]
    cases item <;> rfl
  | _ => exact List.append_nil q.current

theorem Moved.jobs_joining (h : q.Moved move next notices) :
    jobs (q.joining move) = accepted notices := by
  cases h with
  | refuse job full =>
    rw [joining, if_pos full]
    rfl
  | accept job free =>
    rw [joining, if_neg (by simp [free])]
    rfl
  | begins item rest idle first => cases item <;> rfl
  | serve item ending busy => cases item <;> rfl
  | rest move worker => rcases worker with rfl | ⟨ending, rfl⟩ <;> rfl
  | _ => rfl

theorem Moved.markers_joining (h : q.Moved move next notices) :
    markers (q.joining move) = begun [move] := by
  cases h with
  | refuse job full =>
    rw [joining, if_pos full]
    rfl
  | accept job free =>
    rw [joining, if_neg (by simp [free])]
    rfl
  | rest move worker => rcases worker with rfl | ⟨ending, rfl⟩ <;> rfl
  | _ => rfl

/-- A submission is accepted or refused, and refusals are counted. -/
theorem Moved.submitted (h : q.Moved move next notices) :
    accepted notices ++ refused notices = Queue.submitted [move] ∧
      next.dropped = q.dropped + (refused notices).length := by
  cases h with
  | begins item rest idle first =>
    rw [dropped_seatFlush]
    cases item <;> exact ⟨rfl, rfl⟩
  | serve item ending busy => cases item <;> exact ⟨rfl, rfl⟩
  | rest move worker => rcases worker with rfl | ⟨ending, rfl⟩ <;> exact ⟨rfl, rfl⟩
  | _ => exact ⟨rfl, rfl⟩

/-- The handle of a job reports that it was refused, or how it ended. -/
theorem Moved.reports (h : q.Moved move next notices) :
    Queue.reports notices =
      (refused notices).map (fun job => (job, .error .queueFull)) ++ ended notices := by
  cases h with
  | begins item rest idle first => cases item <;> rfl
  | serve item ending busy => cases item <;> rfl
  | _ => rfl

end Steps

section Runs

variable {q : Queue κ}

theorem joined_append (q : Queue κ) (first second : List (Move κ)) :
    q.joined (first ++ second) = q.joined first ++ (q.run first).1.joined second := by
  induction first generalizing q with
  | nil => rfl
  | cons move rest ih => simp only [List.cons_append, joined, run, ih, List.append_assoc]

/-- No move closes the queue. -/
def KeepOpen (moves : List (Move κ)) : Prop :=
  ∀ move ∈ moves, move ≠ .close

/-- What moves do to a queue that is not closed. -/
structure Accounted (q : Queue κ) (moves : List (Move κ)) : Prop where
  standing : (q.run moves).1.Standing
  capacity : (q.run moves).1.capacity = q.capacity
  /-- what has joined the line was served in that order, or is in line still -/
  line : q.line ++ q.joined moves = served (q.run moves).2 ++ (q.run moves).1.line
  /-- all jobs that were begun have ended, but for the one the worker is at -/
  current : q.current ++ started (q.run moves).2 =
    (ended (q.run moves).2).map Prod.fst ++ (q.run moves).1.current
  jobs : jobs (q.joined moves) = accepted (q.run moves).2
  markers : markers (q.joined moves) = begun moves
  /-- a job that is handed in is accepted or refused -/
  submitted : (accepted (q.run moves).2 ++ refused (q.run moves).2).Perm (submitted moves)
  inOrder : (accepted (q.run moves).2).Sublist (Queue.submitted moves)
  dropped : (q.run moves).1.dropped = q.dropped + (refused (q.run moves).2).length
  reports : (reports (q.run moves).2).Perm
    ((refused (q.run moves).2).map (fun job => (job, .error .queueFull)) ++
      ended (q.run moves).2)

/-- Two histories that come one after the other, each divided in two. -/
theorem append_append_perm {α : Type} (a b c d : List α) :
    (a ++ c ++ (b ++ d)).Perm (a ++ b ++ (c ++ d)) := by
  rw [List.append_assoc, List.append_assoc]
  exact (List.perm_append_comm_assoc c b d).append_left a

theorem accounted_run {moves : List (Move κ)} (h : q.Standing) (open_ : KeepOpen moves) :
    q.Accounted moves := by
  induction moves generalizing q with
  | nil =>
    exact ⟨h, rfl, List.append_nil _, List.append_nil _, rfl, rfl, .refl _, .refl _, rfl,
      .refl _⟩
  | cons move rest ih =>
    have one := moved h move (open_ move List.mem_cons_self)
    have later := ih (one.standing h) fun m member => open_ m (List.mem_cons_of_mem _ member)
    constructor
    case standing => exact later.standing
    case capacity => exact later.capacity.trans one.capacity
    case line =>
      calc
        q.line ++ (q.joining move ++ (q.step move).1.joined rest)
          = (q.line ++ q.joining move) ++ (q.step move).1.joined rest :=
            (List.append_assoc ..).symm
        _ = served (q.step move).2 ++ ((q.step move).1.line ++ (q.step move).1.joined rest) := by
            rw [one.line h, List.append_assoc]
        _ = served ((q.step move).2 ++ ((q.step move).1.run rest).2) ++
              ((q.step move).1.run rest).1.line := by
            rw [later.line, served, served, served, List.filterMap_append, List.append_assoc]
    case current =>
      have now := one.current
      have next := later.current
      simp only [run, started, ended, List.filterMap_append, List.map_append] at now next ⊢
      rw [← List.append_assoc, now, List.append_assoc, next, List.append_assoc]
    case jobs =>
      have now := one.jobs_joining
      have next := later.jobs
      simp only [run, joined, Queue.jobs, accepted, List.filterMap_append] at now next ⊢
      rw [now, next]
    case markers =>
      have now := one.markers_joining
      have next := later.markers
      simp only [joined, Queue.markers, begun, List.filterMap_append] at now next ⊢
      rw [now, next, ← List.filterMap_append]
      rfl
    case submitted =>
      have now := one.submitted.1
      have next := later.submitted
      simp only [run, accepted, refused, Queue.submitted, List.filterMap_append] at now next ⊢
      rw [← List.singleton_append, List.filterMap_append, ← now]
      exact (append_append_perm ..).trans (next.append_left _)
    case inOrder =>
      have now := one.submitted.1
      have next := later.inOrder
      simp only [run, accepted, refused, Queue.submitted, List.filterMap_append] at now next ⊢
      rw [← List.singleton_append, List.filterMap_append, ← now]
      exact (List.sublist_append_left ..).append next
    case dropped =>
      have now := one.submitted.2
      have next := later.dropped
      simp only [run, refused, List.filterMap_append, List.length_append] at now next ⊢
      omega
    case reports =>
      have now := one.reports
      have next := later.reports
      simp only [run, Queue.reports, refused, ended, List.filterMap_append, List.map_append]
        at now next ⊢
      rw [now]
      exact (next.append_left _).trans (append_append_perm ..)

end Runs

section Worker

variable {q : Queue κ}

/-- Only the worker moves. -/
def ByWorker (moves : List (Move κ)) : Prop :=
  ∀ move ∈ moves, move = .take ∨ ∃ ending, move = .finish ending

/-- Letting the worker go on is a run of its moves. -/
theorem exists_run_eq_work (q : Queue κ) (ending? : κ → Option Ending) :
    ∃ moves, ByWorker moves ∧ q.run moves = q.work ending? := by
  fun_induction work q ending? with
  | case1 q item busy stuck => exact ⟨[], fun _ none => absurd none List.not_mem_nil, rfl⟩
  | case2 q item busy ending ends later ih =>
    obtain ⟨moves, worker, same⟩ := ih
    refine ⟨.finish ending :: moves, ?_, ?_⟩
    · intro move member
      rcases List.mem_cons.1 member with rfl | member
      · exact .inr ⟨ending, rfl⟩
      · exact worker move member
    · rw [run, step, same]
  | case3 q idle empty => exact ⟨[], fun _ none => absurd none List.not_mem_nil, rfl⟩
  | case4 q idle item rest first later ih =>
    obtain ⟨moves, worker, same⟩ := ih
    refine ⟨.take :: moves, ?_, ?_⟩
    · intro move member
      rcases List.mem_cons.1 member with rfl | member
      · exact .inl rfl
      · exact worker move member
    · rw [run, step, same]

theorem ByWorker.keepOpen {moves : List (Move κ)} (h : ByWorker moves) : KeepOpen moves := by
  intro move member closes
  rcases h move member with rfl | ⟨ending, rfl⟩ <;> cases closes

theorem ByWorker.joined {moves : List (Move κ)} (h : ByWorker moves) (q : Queue κ) :
    q.joined moves = [] := by
  induction moves generalizing q with
  | nil => rfl
  | cons move rest ih =>
    have tail := ih (fun m member => h m (List.mem_cons_of_mem _ member)) (q.step move).1
    rw [Queue.joined, tail]
    rcases h move List.mem_cons_self with rfl | ⟨ending, rfl⟩ <;> rfl

/-- If every job ends, the worker goes on until nothing is in line. -/
theorem line_work (h : q.Standing) (ending : κ → Ending) :
    (q.work fun j => some (ending j)).1.line = [] := by
  fun_induction work q fun j => some (ending j) with
  | case1 q item busy stuck => cases item <;> cases stuck
  | case2 q item busy _ ends later ih =>
    exact ih ((moved h (.finish _) nofun).standing h)
  | case3 q idle empty =>
    have unblocked : q.blocked = [] := by
      by_cases none : q.blocked = []
      · exact none
      · have full := h.blocked none
        have positive := h.positive
        rw [empty, List.length_nil] at full
        omega
    simp [line, idle, empty, unblocked]
  | case4 q idle item rest first later ih =>
    exact ih ((moved h .take nofun).standing h)

/-- Every job ends with its own result. -/
theorem ended_work (q : Queue κ) (ending : κ → Ending) :
    ∀ own ∈ ended (q.work fun j => some (ending j)).2, own.2 = (ending own.1).result := by
  fun_induction work q fun j => some (ending j) with
  | case1 q item busy stuck => exact fun own none => absurd none List.not_mem_nil
  | case2 q item busy how ends later ih =>
    intro own member
    rw [finish_of_some busy, ended, List.filterMap_append, List.mem_append] at member
    rcases member with now | member
    · cases item with
      | job j =>
        cases ends
        cases List.mem_singleton.1 now
        rfl
      | marker number => cases now
    · exact ih own member
  | case3 q idle empty => exact fun own none => absurd none List.not_mem_nil
  | case4 q idle item rest first later ih =>
    intro own member
    have quiet : ended q.take.2 = [] := by
      rw [take_of_cons idle first]
      cases item <;> rfl
    rw [ended, List.filterMap_append, ← ended, quiet] at member
    exact ih own member

end Worker

end RadiusSentry.Queue
