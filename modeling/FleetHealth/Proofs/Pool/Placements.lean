import FleetHealth.Pool.Schedule
import Mathlib.Data.List.Basic

/- Which jobs of a schedule are begun does not depend on how long the checks take: a job is begun
   as long as fewer checks before it crash than there are workers. -/
namespace FleetHealth.Pool

def crashCount (jobs : List Job) : Nat := jobs.countP fun job => job.check.crashed

/-- The check was begun, and its crash took a worker. -/
def Placement.lost (p : Placement) : Bool := p.start.isSome && p.job.check.crashed

theorem crashCount_cons (job : Job) (jobs : List Job) :
    crashCount (job :: jobs) = crashCount jobs + if job.check.crashed then 1 else 0 := by
  simp [crashCount, List.countP_cons]

theorem crashCount_take_le (jobs : List Job) {i k : Nat} (le : i ≤ k) :
    crashCount (jobs.take i) ≤ crashCount (jobs.take k) :=
  (List.take_sublist_take_left le).countP_le

theorem crashCount_take_le_all (jobs : List Job) (k : Nat) :
    crashCount (jobs.take k) ≤ crashCount jobs :=
  (List.take_sublist k jobs).countP_le

theorem earliest_mem (t : Nat) (rest : List Nat) : earliest t rest ∈ t :: rest := by
  unfold earliest
  induction rest generalizing t with
  | nil => simp
  | cons u rest ih =>
    rcases List.mem_cons.mp (ih (min t u)) with least | later
    · rw [List.foldl_cons, least]
      rcases Nat.le_total t u with le | le <;> simp [le]
    · exact List.mem_cons_of_mem t (List.mem_cons_of_mem u later)

theorem earliest_le (t : Nat) (rest : List Nat) : ∀ u ∈ t :: rest, earliest t rest ≤ u := by
  unfold earliest
  induction rest generalizing t with
  | nil => simp
  | cons u rest ih =>
    intro v mem
    have least := ih (min t u)
    rw [List.forall_mem_cons] at least
    rw [List.foldl_cons]
    rcases List.mem_cons.mp mem with rfl | mem
    · exact Nat.le_trans least.1 (Nat.min_le_left v u)
    · rcases List.mem_cons.mp mem with rfl | mem
      · exact Nat.le_trans least.1 (Nat.min_le_right t v)
      · exact least.2 v mem

/-- The worker that is free first begins the first job, and is free again when the check is over,
unless that crashes. -/
theorem place_next {free : List Nat} (some_ : free ≠ []) (job : Job) (jobs : List Job) :
    ∃ now others, (now :: others).Perm free ∧ (∀ t ∈ others, now ≤ t) ∧
      place free (job :: jobs) = ⟨job, some now⟩ ::
        place (if job.check.crashed then others else (now + job.check.duration) :: others) jobs := by
  obtain ⟨t, ts, rfl⟩ := List.exists_cons_of_ne_nil some_
  refine ⟨earliest t ts, _, (List.perm_cons_erase (earliest_mem t ts)).symm, ?_, rfl⟩
  exact fun u mem => earliest_le t ts u (List.mem_of_mem_erase mem)

/-- A crash leaves one worker less for the other jobs. -/
theorem place_cons (t : Nat) (ts : List Nat) (job : Job) (jobs : List Job) :
    ∃ now left, place (t :: ts) (job :: jobs) = ⟨job, some now⟩ :: place left jobs ∧
      left.length + (if job.check.crashed then 1 else 0) = (t :: ts).length := by
  obtain ⟨now, others, split, _, placed⟩ := place_next (List.cons_ne_nil t ts) job jobs
  refine ⟨now, _, placed, ?_⟩
  rw [← split.length_eq]
  split <;> simp

theorem place_jobs (free : List Nat) (jobs : List Job) :
    (place free jobs).map Placement.job = jobs := by
  induction jobs generalizing free with
  | nil => rfl
  | cons job jobs ih =>
    cases free with
    | nil => simp [place, ih]
    | cons t ts =>
      obtain ⟨now, left, placed, _⟩ := place_cons t ts job jobs
      simp [placed, ih]

theorem place_started_iff {free : List Nat} {jobs : List Job} {i : Nat} {p : Placement}
    (here : (place free jobs)[i]? = some p) :
    p.start.isSome = true ↔ crashCount (jobs.take i) < free.length := by
  induction jobs generalizing free i with
  | nil => simp [place] at here
  | cons job jobs ih =>
    cases free with
    | nil =>
      cases i with
      | zero =>
        obtain rfl : Placement.mk job none = p := by simpa [place] using here
        simp
      | succ i =>
        have later : (place [] jobs)[i]? = some p := by simpa [place] using here
        simpa only [List.length_nil, Nat.not_lt_zero] using ih later
    | cons t ts =>
      obtain ⟨now, left, placed, workers⟩ := place_cons t ts job jobs
      rw [placed] at here
      cases i with
      | zero =>
        obtain rfl : Placement.mk job (some now) = p := by simpa using here
        simp [crashCount]
      | succ i =>
        rw [ih (by simpa using here), List.take_succ_cons, crashCount_cons]
        omega

theorem place_losses (free : List Nat) (jobs : List Job) :
    (place free jobs).countP Placement.lost = min free.length (crashCount jobs) := by
  induction jobs generalizing free with
  | nil => simp [place, crashCount]
  | cons job jobs ih =>
    cases free with
    | nil =>
      rw [place, List.countP_cons, ih]
      simp [Placement.lost]
    | cons t ts =>
      obtain ⟨now, left, placed, workers⟩ := place_cons t ts job jobs
      rw [placed, List.countP_cons, ih, crashCount_cons]
      simp only [Placement.lost, Option.isSome_some, Bool.true_and]
      omega

theorem schedule_jobs (concurrency : Nat) (jobs : List Job) :
    (schedule concurrency jobs).map Placement.job = jobs :=
  place_jobs _ jobs

theorem length_schedule (concurrency : Nat) (jobs : List Job) :
    (schedule concurrency jobs).length = jobs.length := by
  rw [← List.length_map Placement.job, schedule_jobs]

theorem schedule_started_iff {concurrency : Nat} {jobs : List Job} {i : Nat} {p : Placement}
    (here : (schedule concurrency jobs)[i]? = some p) :
    p.start.isSome = true ↔
      crashCount (jobs.take i) < workerCount concurrency jobs.length := by
  rw [place_started_iff here, List.length_replicate]

theorem schedule_losses (concurrency : Nat) (jobs : List Job) :
    (schedule concurrency jobs).countP Placement.lost =
      min (workerCount concurrency jobs.length) (crashCount jobs) := by
  rw [schedule, place_losses, List.length_replicate]

end FleetHealth.Pool
