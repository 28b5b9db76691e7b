import Preflight.Update
import Preflight.Log.Daily

/-!
# Background housekeeping

Housekeeping jobs run one after another on a thread of their own, beside the command. Before
each job the runner looks at the run's cancel event, and once the event is set no further
job starts. A job that fails with an error does not stop the run; a job that raises
anything else (an interrupt, an exit) ends it. However the run ends, it is marked done then,
and only then. The command can ask whether the run is done and can cancel it; a job can
cancel it too, and a job that waits for cancellation goes on once it comes.

The runner's thread is a machine of turns: each turn looks at the event and starts at most
one job, which runs to its end within the turn unless it waits for cancellation. Cancelling
is a move of its own, which any thread may make between any two turns, so a run is the
sequence of turns and cancellations that happened to it. Starting a run lets the runner take
its turns until the run is done or held by a job that waits; cancelling a run sets the event
and lets the runner take its turns again.
-/

set_option autoImplicit false

namespace Preflight.Tasks

/-- How a job ended, with the world it left. -/
inductive Step (σ : Type) where
  /-- The job finished. -/
  | finished (w : σ)
  /-- The job failed with an error; its changes stay. -/
  | failed (w : σ)
  /-- The job finished and cancelled the run. -/
  | cancelled (w : σ)
  /-- The job raised what is not an error, which ends the run; its changes stay. -/
  | aborted (w : σ)
  /-- The job waits for the run to be cancelled, then goes on as the function says. -/
  | waiting (resume : σ → σ)

/-- A job: a step on the world, given whether the run is cancelled when it starts. -/
structure Job (σ : Type) where
  /-- The job's name. -/
  name : String
  /-- What the job does. -/
  step : σ → Bool → Step σ

/-- A run of jobs. -/
structure Run (σ : Type) where
  /-- The jobs not yet started. -/
  pending : List (Job σ)
  /-- The world. -/
  world : σ
  /-- Whether the run's cancel event is set. -/
  cancelled : Bool
  /-- The rest of a job that waits for cancellation. -/
  held : Option (σ → σ) := none
  /-- Whether the run is over. -/
  done : Bool := false

/-- What may happen to a run: the runner takes its next turn, or some thread cancels it. -/
inductive Move where
  /-- The runner's next turn. -/
  | turn
  /-- A cancellation, from any thread. -/
  | cancel
  deriving DecidableEq, Repr

namespace Run

/-- The run after the job just started ended as `s`, with `rest` the jobs after it. -/
def afterJob {σ : Type} (r : Run σ) (rest : List (Job σ)) : Step σ → Run σ
  | .finished w | .failed w => { r with pending := rest, world := w }
  | .cancelled w => { r with pending := rest, world := w, cancelled := true }
  | .aborted w => { r with pending := rest, world := w, done := true }
  | .waiting k => { r with pending := rest, held := some k }

/-- The runner's turn. A run that is done stays so, and a job that waits goes on only once
the event is set; otherwise the runner looks at the event: set, or no job left, ends the
run, and clear starts the next job. -/
def turn {σ : Type} (r : Run σ) : Run σ :=
  if r.done then r
  else
    match r.held with
    | some k => if r.cancelled then { r with world := k r.world, held := none } else r
    | none =>
      match r.pending with
      | [] => { r with done := true }
      | j :: rest => if r.cancelled then { r with done := true } else r.afterJob rest (j.step r.world r.cancelled)

/-- Sets the run's cancel event. -/
def signal {σ : Type} (r : Run σ) : Run σ := { r with cancelled := true }

/-- One move. -/
def move {σ : Type} (r : Run σ) : Move → Run σ
  | .turn => r.turn
  | .cancel => r.signal

/-- Moves in order. -/
def play {σ : Type} (r : Run σ) (ms : List Move) : Run σ := ms.foldl move r

/-- Lets the runner take turns until the run is done or held by a job that waits: a turn for
each job not yet started, one to end the run and one to resume a waiting job are enough. -/
def settle {σ : Type} (r : Run σ) : Run σ := r.play (List.replicate (r.pending.length + 2) .turn)

/-- Starts a run of jobs, cancelled from the start when `cancelled` is set. -/
def start {σ : Type} (jobs : List (Job σ)) (world : σ) (cancelled : Bool := false) : Run σ :=
  settle { pending := jobs, world, cancelled }

/-- Cancels a run: the event is set, a waiting job goes on, and no further job starts. -/
def cancel {σ : Type} (r : Run σ) : Run σ := settle r.signal

/-- Whether waiting for the run ends with the run done: a run held by a waiting job does
not end before it is cancelled. -/
def wait {σ : Type} (r : Run σ) : Bool := r.done

end Run

/-- The world of housekeeping: the files, what was written to the error stream, and the
state of whoever starts the run. -/
structure World (ρ : Type) where
  /-- The files. -/
  tree : Files.Tree
  /-- What the jobs wrote to the error stream. -/
  stream : String := ""
  /-- The state of the caller's own jobs. -/
  extra : ρ

/-- A job that carries out an action on the files; a failed action fails the job. -/
def fileJob {ρ : Type} (name : String) (act : Bool → Files.Action String) : Job (World ρ) :=
  ⟨name, fun w c =>
    match (act c).run w.tree with
    | (.ok out, t) => .finished { w with tree := t, stream := w.stream ++ out }
    | (.error _, t) => .failed { w with tree := t }⟩

/-- The housekeeping jobs: the caller's job first if there is one, then the update check
when it is asked for, then the pruning of old log files. -/
def housekeeping {ρ : Type} (inst : Install) (now : Time.Moment) (updateCheck notify : Bool)
    (answer : Option String) (hook : Option (Job (World ρ))) : List (Job (World ρ)) :=
  let check : Job (World ρ) := fileJob "update-check" (fun _ => do
    let (_, shown) ← Update.check inst now cliVersion notify answer
    return shown)
  let prune : Job (World ρ) := fileJob "prune-logs" (fun c => do
    discard (Log.prune inst.logDir now.toUTC.date c)
    return "")
  hook.toList ++ (if updateCheck then [check] else []) ++ [prune]

end Preflight.Tasks
