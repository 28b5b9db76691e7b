import Preflight.Tasks

/-!
# The course of a run of jobs

Whatever happens to a run of housekeeping jobs, whichever turns the runner takes and
whenever some thread cancels it, the run keeps an account of itself (`Run.Course`): it has
started a first part of the jobs, in order, each once and each on a clear cancel event, and
the world is what these jobs made of it; a run that is done has no job in progress, and it
ended because no job was left, because the event was set, or because the last job it started
raised what is not an error. A job that fails with an error is no reason to end.

`turn_cases` says once what a turn can do; every move keeps the account
(`Run.Course.turn`, `Run.Course.signal`), hence so does every sequence of moves
(`Run.Course.play`). `runs_in_order` gathers the runner's guarantees: the account after any
sequence of moves; a job starts only on a turn that finds the event clear and no job in
progress; a run that is done stays done and nothing more happens in it; starting a run
leaves it done or held by a waiting job, and cancelling always ends it.
-/

set_option autoImplicit false

namespace Preflight.Tasks

variable {σ : Type}

/-- The world a job leaves when it starts on a clear event; a job that waits is taken to go
on once the run is cancelled. -/
def Job.effect (j : Job σ) (w : σ) : σ :=
  match j.step w false with
  | .finished w' | .failed w' | .cancelled w' | .aborted w' => w'
  | .waiting k => k w

/-- The world after starting `jobs` from `w` in order, each on a clear event. -/
def runAll (jobs : List (Job σ)) (w : σ) : σ := jobs.foldl (fun w j => j.effect w) w

@[simp] theorem runAll_nil (w : σ) : runAll [] w = w := rfl

theorem runAll_append_singleton (jobs : List (Job σ)) (j : Job σ) (w : σ) :
    runAll (jobs ++ [j]) w = j.effect (runAll jobs w) := by
  simp [runAll]

namespace Run

/-! ## What one turn does -/

@[simp] theorem afterJob_pending (r : Run σ) (rest : List (Job σ)) (s : Step σ) :
    (r.afterJob rest s).pending = rest := by
  cases s <;> rfl

/-- What a turn can do: nothing to a run that is done or held by a job still waiting; resume
the waiting job once the event is set; end the run when the event is set or no job is left;
or start the next job on a clear event. -/
theorem turn_cases (r : Run σ) :
    (r.done = true ∧ r.turn = r) ∨
    (∃ k, r.done = false ∧ r.held = some k ∧ r.cancelled = false ∧ r.turn = r) ∨
    (∃ k, r.done = false ∧ r.held = some k ∧ r.cancelled = true ∧
      r.turn = { r with world := k r.world, held := none }) ∨
    (r.done = false ∧ r.held = none ∧ (r.pending = [] ∨ r.cancelled = true) ∧
      r.turn = { r with done := true }) ∨
    (∃ j rest, r.done = false ∧ r.held = none ∧ r.cancelled = false ∧ r.pending = j :: rest ∧
      r.turn = r.afterJob rest (j.step r.world false)) := by
  cases hd : r.done
  · cases hh : r.held with
    | some k =>
      cases hc : r.cancelled
      · exact .inr (.inl ⟨k, rfl, rfl, rfl, by simp [turn, hd, hh, hc]⟩)
      · exact .inr (.inr (.inl ⟨k, rfl, rfl, rfl, by simp [turn, hd, hh, hc]⟩))
    | none =>
      cases hp : r.pending with
      | nil => exact .inr (.inr (.inr (.inl ⟨rfl, rfl, .inl rfl, by simp [turn, hd, hh, hp]⟩)))
      | cons j rest =>
        cases hc : r.cancelled
        · refine .inr (.inr (.inr (.inr ⟨j, rest, rfl, rfl, rfl, rfl, ?_⟩)))
          simp [turn, hd, hh, hp, hc]
        · exact .inr (.inr (.inr (.inl ⟨rfl, rfl, .inr rfl, by simp [turn, hd, hh, hp, hc]⟩)))
  · exact .inl ⟨rfl, by simp [turn, hd]⟩

/-! ## The account a run keeps -/

/-- The account a run of `jobs` from the world `w₀` keeps of itself, when it has started the
jobs `ran`. -/
structure Course (jobs ran : List (Job σ)) (w₀ : σ) (r : Run σ) : Prop where
  /-- The jobs started come first, in order; the others are still to start. -/
  split : jobs = ran ++ r.pending
  /-- With no job in progress, the world is what the jobs started made of it. -/
  world : r.held = none → r.world = runAll ran w₀
  /-- A job in progress is the last started; it waits, in the world the jobs before it made. -/
  inside : ∀ k, r.held = some k → ∃ pre j, ran = pre ++ [j] ∧ r.world = runAll pre w₀ ∧
    j.step r.world false = .waiting k
  /-- A run that is done has no job in progress. -/
  idle : r.done = true → r.held = none
  /-- A run ends when no job is left, when the event is set, or when the last job it started
  raised what is not an error. -/
  ended : r.done = true → r.pending = [] ∨ r.cancelled = true ∨
    ∃ pre j w, ran = pre ++ [j] ∧ j.step (runAll pre w₀) false = .aborted w

variable {jobs ran : List (Job σ)} {w₀ : σ} {r : Run σ}

theorem course_start (jobs : List (Job σ)) (w₀ : σ) (c : Bool) :
    Course jobs [] w₀ { pending := jobs, world := w₀, cancelled := c } :=
  ⟨rfl, fun _ => rfl, fun _ hk => (by cases hk), fun hd => (by cases hd), fun hd => (by cases hd)⟩

/-- Starting the next job on a clear event adds it to the jobs started. -/
theorem Course.afterJob (h : Course jobs ran w₀ r) {j : Job σ} {rest : List (Job σ)}
    (hd : r.done = false) (hh : r.held = none) (hp : r.pending = j :: rest) :
    Course jobs (ran ++ [j]) w₀ (r.afterJob rest (j.step r.world false)) := by
  have hsplit : jobs = (ran ++ [j]) ++ rest := by
    rw [h.split, hp, List.append_assoc, List.singleton_append]
  have hw := h.world hh
  -- The world after the job is its effect on the world the jobs before it made.
  have heff : ∀ w, j.step r.world false = .finished w ∨ j.step r.world false = .failed w ∨
      j.step r.world false = .cancelled w ∨ j.step r.world false = .aborted w →
      w = runAll (ran ++ [j]) w₀ := by
    intro w hs
    rw [runAll_append_singleton, ← hw]
    rcases hs with hs | hs | hs | hs <;> simp [Job.effect, hs]
  cases hs : j.step r.world false with
  | finished w =>
    exact ⟨hsplit, fun _ => heff w (.inl hs), fun k hk => (by simp [Run.afterJob, hh] at hk),
      fun hd' => (by simp [Run.afterJob, hd] at hd'), fun hd' => (by simp [Run.afterJob, hd] at hd')⟩
  | failed w =>
    exact ⟨hsplit, fun _ => heff w (.inr (.inl hs)), fun k hk => (by simp [Run.afterJob, hh] at hk),
      fun hd' => (by simp [Run.afterJob, hd] at hd'), fun hd' => (by simp [Run.afterJob, hd] at hd')⟩
  | cancelled w =>
    exact ⟨hsplit, fun _ => heff w (.inr (.inr (.inl hs))),
      fun k hk => (by simp [Run.afterJob, hh] at hk),
      fun hd' => (by simp [Run.afterJob, hd] at hd'), fun hd' => (by simp [Run.afterJob, hd] at hd')⟩
  | aborted w =>
    -- The job ends the run, and is the reason it ended.
    refine ⟨hsplit, fun _ => heff w (.inr (.inr (.inr hs))),
      fun k hk => (by simp [Run.afterJob, hh] at hk), fun _ => hh, fun _ => ?_⟩
    exact .inr (.inr ⟨ran, j, w, rfl, hw ▸ hs⟩)
  | waiting k =>
    refine ⟨hsplit, fun hk => (by simp [Run.afterJob] at hk), fun k' hk' => ?_,
      fun hd' => (by simp [Run.afterJob, hd] at hd'), fun hd' => (by simp [Run.afterJob, hd] at hd')⟩
    simp only [Run.afterJob, Option.some.injEq] at hk'
    exact ⟨ran, j, rfl, hw, hk' ▸ hs⟩

/-- A turn keeps the account. -/
theorem Course.turn (h : Course jobs ran w₀ r) : ∃ ran', Course jobs ran' w₀ r.turn := by
  rcases turn_cases r with ⟨-, heq⟩ | ⟨k, -, -, -, heq⟩ | ⟨k, hd, hh, -, heq⟩ |
      ⟨hd, hh, hend, heq⟩ | ⟨j, rest, hd, hh, -, hp, heq⟩
  · exact ⟨ran, by rw [heq]; exact h⟩
  · exact ⟨ran, by rw [heq]; exact h⟩
  · -- The waiting job goes on; it is still the last job started, and it is over now.
    obtain ⟨pre, j, hran, hw, hstep⟩ := h.inside k hh
    refine ⟨ran, ?_⟩
    rw [heq]
    refine ⟨h.split, fun _ => ?_, fun k' hk' => (by cases hk'),
      fun hd' => (by simp [hd] at hd'), fun hd' => (by simp [hd] at hd')⟩
    show k r.world = runAll ran w₀
    rw [hran, runAll_append_singleton, ← hw]
    simp [Job.effect, hstep]
  · refine ⟨ran, ?_⟩
    rw [heq]
    refine ⟨h.split, h.world, fun k hk => (by simp [hh] at hk), fun _ => hh, fun _ => ?_⟩
    rcases hend with hp | hc
    · exact .inl hp
    · exact .inr (.inl hc)
  · exact ⟨ran ++ [j], by rw [heq]; exact h.afterJob hd hh hp⟩

/-- A cancellation keeps the account: it changes nothing but the event. -/
theorem Course.signal (h : Course jobs ran w₀ r) : Course jobs ran w₀ r.signal :=
  ⟨h.split, h.world, h.inside, h.idle, fun _ => .inr (.inl rfl)⟩

/-- The run lemma: every sequence of moves keeps the account. -/
theorem Course.play (h : Course jobs ran w₀ r) (ms : List Move) :
    ∃ ran', Course jobs ran' w₀ (r.play ms) := by
  induction ms generalizing r ran with
  | nil => exact ⟨ran, h⟩
  | cons m ms ih =>
    cases m with
    | turn =>
      obtain ⟨ran', h'⟩ := h.turn
      exact ih h'
    | cancel => exact ih h.signal

/-! ## Starting, ending, cancelling -/

theorem move_of_done (hd : r.done = true) (m : Move) :
    (r.move m).done = true ∧ (r.move m).pending = r.pending ∧ (r.move m).world = r.world := by
  cases m with
  | turn => simp [move, turn, hd]
  | cancel => exact ⟨hd, rfl, rfl⟩

theorem play_of_done (hd : r.done = true) (ms : List Move) : (r.play ms).done = true := by
  induction ms generalizing r with
  | nil => exact hd
  | cons m ms ih => exact ih (move_of_done hd m).1

/-- Only a turn starts a job, and only one that finds the event clear and no job in
progress in a run not yet done. -/
theorem move_starts {m : Move} (h : (r.move m).pending ≠ r.pending) :
    m = .turn ∧ r.cancelled = false ∧ r.held = none ∧ r.done = false := by
  cases m with
  | cancel => exact absurd rfl h
  | turn =>
    simp only [move] at h
    rcases turn_cases r with ⟨-, heq⟩ | ⟨k, -, -, -, heq⟩ | ⟨k, -, -, -, heq⟩ |
        ⟨-, -, -, heq⟩ | ⟨j, rest, hd, hh, hc, -, -⟩
    · exact absurd (by rw [heq]) h
    · exact absurd (by rw [heq]) h
    · exact absurd (by rw [heq]) h
    · exact absurd (by rw [heq]) h
    · exact ⟨rfl, hc, hh, hd⟩

/-- Once the event is set, two turns end any run: one to let a waiting job go on, one to
find the event set. -/
theorem turn_turn_of_cancelled (hc : r.cancelled = true) : r.turn.turn.done = true := by
  have hend : ∀ r' : Run σ, r'.cancelled = true → r'.held = none → r'.turn.done = true := by
    intro r' hc' hh'
    rcases turn_cases r' with ⟨hd, -⟩ | ⟨k, -, hk, -, -⟩ | ⟨k, -, hk, -, -⟩ | ⟨-, -, -, heq⟩ |
        ⟨j, rest, -, -, hc'', -, -⟩
    · exact (move_of_done hd .turn).1
    · simp [hh'] at hk
    · simp [hh'] at hk
    · rw [heq]
    · simp [hc'] at hc''
  rcases turn_cases r with ⟨hd, heq⟩ | ⟨k, -, -, hc', -⟩ | ⟨k, -, -, -, heq⟩ | ⟨-, -, -, heq⟩ |
      ⟨j, rest, -, -, hc', -, -⟩
  · rw [heq, heq]
    exact hd
  · simp [hc] at hc'
  · rw [heq]
    exact hend _ hc rfl
  · rw [heq]
    exact (move_of_done rfl .turn).1
  · simp [hc] at hc'

/-- Turns leave a run held by a job that waits, while the event is clear. -/
theorem play_turns_of_held {k : σ → σ} (hh : r.held = some k) (hc : r.cancelled = false)
    (n : Nat) : r.play (List.replicate n .turn) = r := by
  induction n with
  | zero => rfl
  | succ n ih =>
    have hturn : r.turn = r := by
      rcases turn_cases r with ⟨-, heq⟩ | ⟨k', -, -, -, heq⟩ | ⟨k', -, -, hc', -⟩ |
          ⟨-, hh', -, -⟩ | ⟨j, rest, -, hh', -, -, -⟩
      · exact heq
      · exact heq
      · simp [hc] at hc'
      · simp [hh] at hh'
      · simp [hh] at hh'
    show (r.turn).play (List.replicate n .turn) = r
    rw [hturn]
    exact ih

/-- With a turn for every job left and one more, the runner ends the run or is held by a job
that waits. -/
theorem play_turns_settles (n : Nat) (hn : r.pending.length < n) (hh : r.held = none) :
    (r.play (List.replicate n .turn)).done = true ∨
      ∃ k, (r.play (List.replicate n .turn)).held = some k := by
  induction n generalizing r with
  | zero => simp at hn
  | succ n ih =>
    change ((r.turn).play _).done = true ∨ ∃ k, ((r.turn).play _).held = some k
    rcases turn_cases r with ⟨hd, -⟩ | ⟨k, -, hk, -, -⟩ | ⟨k, -, hk, -, -⟩ | ⟨-, -, -, heq⟩ |
        ⟨j, rest, -, -, hc, hp, heq⟩
    · exact .inl (play_of_done (move_of_done hd .turn).1 _)
    · simp [hh] at hk
    · simp [hh] at hk
    · rw [heq]
      exact .inl (play_of_done rfl _)
    · -- The next job starts; it ends the run, holds it, or leaves one job fewer.
      have hlen : rest.length < n := by
        rw [hp, List.length_cons] at hn
        omega
      rw [heq]
      cases hs : j.step r.world false with
      | finished w => exact ih (by simpa [Run.afterJob] using hlen) (by simp [Run.afterJob, hh])
      | failed w => exact ih (by simpa [Run.afterJob] using hlen) (by simp [Run.afterJob, hh])
      | cancelled w => exact ih (by simpa [Run.afterJob] using hlen) (by simp [Run.afterJob, hh])
      | aborted w => exact .inl (play_of_done rfl _)
      | waiting k =>
        refine .inr ⟨k, ?_⟩
        rw [play_turns_of_held (k := k) rfl (by simp [Run.afterJob, hc])]
        rfl

/-- Cancelling ends any run. -/
theorem cancel_done (r : Run σ) : r.cancel.done = true := by
  have h2 : ∀ n, List.replicate (n + 2) Move.turn = .turn :: .turn :: List.replicate n .turn :=
    fun _ => rfl
  unfold cancel settle
  rw [h2]
  exact play_of_done (turn_turn_of_cancelled rfl) _

/-- The runner's guarantees, over every sequence of turns and cancellations from the start:
the run keeps its account (the jobs started are a first part of the list, in order, each
once and each on a clear event, the world is theirs, and a run that is done has no job in
progress and ended for one of its three reasons, a failed job not among them); a job starts
only on a turn that finds the event clear and no job in progress; a run that is done stays
done, and nothing more happens in it; starting a run leaves it done or held by a job that
waits, and cancelling ends it. -/
theorem runs_in_order (jobs : List (Job σ)) (w₀ : σ) (c : Bool) :
    (∀ ms : List Move, ∃ ran,
      Course jobs ran w₀ (({ pending := jobs, world := w₀, cancelled := c } : Run σ).play ms)) ∧
    (∀ (r : Run σ) (m : Move), (r.move m).pending ≠ r.pending →
      m = .turn ∧ r.cancelled = false ∧ r.held = none ∧ r.done = false) ∧
    (∀ (r : Run σ) (m : Move), r.done = true →
      (r.move m).done = true ∧ (r.move m).pending = r.pending ∧ (r.move m).world = r.world) ∧
    ((Run.start jobs w₀ c).done = true ∨ ∃ k, (Run.start jobs w₀ c).held = some k) ∧
    ∀ r : Run σ, r.cancel.done = true :=
  ⟨fun ms => (course_start jobs w₀ c).play ms, fun _ _ h => move_starts h,
    fun _ m hd => move_of_done hd m, play_turns_settles _ (by simp) rfl, cancel_done⟩

end Run

end Preflight.Tasks
