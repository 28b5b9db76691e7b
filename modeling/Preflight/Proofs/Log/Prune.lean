import Preflight.Log.Daily
import Preflight.Proofs.Files.Remove
import Preflight.Proofs.Text.Sorted

/-!
# Pruning old log files

The pruning looks at the names of the log directory's entries that have the shape of a log
file name, in sorted order (`logNames`), and stops at the first one at which it finds itself
cancelled. Of the names it gets to, it removes those whose day it can read and which have
outlived their retention (`expiredName_iff`), in order, and names them (`staleNames`).

Such a name may belong to a directory, which cannot be removed: the pruning then fails
there, having removed the files before it, and looks at no name after it. The ladder: one
name's turn as a run (`run_pruneNames_cancelled`, `run_pruneNames_kept`,
`run_pruneNames_removed`, `run_pruneNames_stuck`); the same turns as steps of the outcome over
the remaining names (`PrunesAs`, with `PrunesAs.kept`, `prunesAs_stuck`, `PrunesAs.removed`);
the outcome over a whole list, by induction on it (`run_pruneNames`); the names the pruning
gets from the directory (`run_pruneWatching`). `prune_removes_expired` puts them together.
-/

set_option autoImplicit false

namespace Preflight.Log

open Preflight.Time
open Files (Tree Fault Action isPlain isName isPlain_join)

/-- The names the pruning looks at, in order: those of the directory's entries that have
the shape of a log file name; none when the path is no directory. -/
def logNames (t : Tree) (dir : String) : List String :=
  if t.isDir dir then (Text.sortTexts (t.children (t.resolve dir))).filter isLogName else []

/-- The names the pruning removes when it gets to the first `k` of `names`. -/
def staleNames (today : Date) (names : List String) (k : Nat) : List String :=
  (names.take k).filter (expiredName today)

@[simp] theorem staleNames_nil (today : Date) (k : Nat) : staleNames today [] k = [] := by
  simp [staleNames]

@[simp] theorem staleNames_zero (today : Date) (names : List String) :
    staleNames today names 0 = [] := by
  simp [staleNames]

theorem staleNames_succ_cons (today : Date) (n : String) (rest : List String) (k : Nat) :
    staleNames today (n :: rest) (k + 1) =
      if expiredName today n then n :: staleNames today rest k else staleNames today rest k := by
  simp only [staleNames, List.take_succ_cons, List.filter_cons]

theorem mem_of_mem_staleNames {today : Date} {names : List String} {k : Nat} {n : String}
    (h : n ∈ staleNames today names k) : n ∈ names :=
  List.mem_of_mem_take (List.mem_filter.1 h).1

/-- A log file is stale when its day can be read and lies more than the retention before
today: eight days old is stale, seven days old or a day to come is not. -/
theorem expiredName_iff (today : Date) (name : String) :
    expiredName today name = true ↔
      ∃ d, dayOfName name = some d ∧ d.ordinal + retentionDays < today.ordinal := by
  unfold expiredName expired
  cases dayOfName name with
  | none => simp
  | some d =>
    simp only [decide_eq_true_eq, Option.some.injEq, exists_eq_left']
    omega

/-! ## One name's turn -/

section Turn

variable (dir : String) (today : Date) (c : Nat → Bool) (n : String) (rest : List String)
  (t : Tree)

theorem run_pruneNames_cancelled (h : c 0 = true) :
    (pruneNames dir today c (n :: rest)).run t = (.ok [], t) := by
  simp [pruneNames, h]

theorem run_pruneNames_kept (h : c 0 = false) (he : expiredName today n = false) :
    (pruneNames dir today c (n :: rest)).run t =
      (pruneNames dir today (fun i => c (i + 1)) rest).run t := by
  simp only [pruneNames, h, he, Bool.false_eq_true, if_false]
  rw [Action.run_bind_of_ok (Action.run_pure _ t), Action.run_bind]
  cases (pruneNames dir today (fun i => c (i + 1)) rest).run t with
  | mk r t' => cases r <;> rfl

theorem run_pruneNames_removed (h : c 0 = false) (he : expiredName today n = true) {t₁ : Tree}
    (hu : (Action.unlink (Files.join dir n)).run t = (.ok ⟨⟩, t₁)) :
    (pruneNames dir today c (n :: rest)).run t =
      Prod.map (Except.map (n :: ·)) id ((pruneNames dir today (fun i => c (i + 1)) rest).run t₁) := by
  simp only [pruneNames, h, he, Bool.false_eq_true, if_false, if_true]
  rw [Action.run_bind, hu, pure_bind]
  dsimp only
  rw [Action.run_bind]
  cases (pruneNames dir today (fun i => c (i + 1)) rest).run t₁ with
  | mk r t' => cases r <;> rfl

theorem run_pruneNames_stuck (h : c 0 = false) (he : expiredName today n = true) {f : Failure}
    (hu : (Action.unlink (Files.join dir n)).run t = (.error f, t)) :
    (pruneNames dir today c (n :: rest)).run t = (.error f, t) := by
  simp only [pruneNames, h, he, Bool.false_eq_true, if_false, if_true]
  rw [Action.run_bind, hu]

end Turn

/-! ## The turns over a list of names -/

/-- How pruning `names` from `t`, cancelled when it comes to the `k`-th, ends: when every
stale name among the first `k` belongs to a file, those files are removed and named in order;
when one of them belongs to a directory, the pruning fails there with the files before it
removed. -/
def PrunesAs (dir : String) (today : Date) (c : Nat → Bool) (names : List String) (k : Nat)
    (t : Tree) : Prop :=
  ((∀ n ∈ staleNames today names k, t.find? (t.resolve dir ++ [n]) ≠ some .dir) →
    (pruneNames dir today c names).run t =
      (.ok (staleNames today names k),
        t.without ((staleNames today names k).map (t.resolve dir ++ [·])))) ∧
  (∀ pre n post, staleNames today names k = pre ++ n :: post →
    (∀ m ∈ pre, t.find? (t.resolve dir ++ [m]) ≠ some .dir) →
    t.find? (t.resolve dir ++ [n]) = some .dir →
    (pruneNames dir today c names).run t =
      (.error (Fault.isDir (Files.join dir n)).toFailure,
        t.without (pre.map (t.resolve dir ++ [·]))))

section Steps

variable {dir : String} {today : Date} {c : Nat → Bool} {n : String} {rest : List String}
  {k : Nat} {t : Tree}

theorem prunesAs_nil : PrunesAs dir today c [] k t :=
  ⟨fun _ => by simp [pruneNames], fun pre n post h => by simp at h⟩

/-- Cancelled before the first name: nothing is removed. -/
theorem prunesAs_cancelled (hc : c 0 = true) : PrunesAs dir today c (n :: rest) 0 t :=
  ⟨fun _ => by simp [run_pruneNames_cancelled _ _ _ _ _ _ hc], fun pre m post h => by simp at h⟩

/-- A name that is not stale is passed over. -/
theorem PrunesAs.kept (hc : c 0 = false) (hexp : expiredName today n = false)
    (h : PrunesAs dir today (fun i => c (i + 1)) rest k t) :
    PrunesAs dir today c (n :: rest) (k + 1) t := by
  unfold PrunesAs at h ⊢
  rw [staleNames_succ_cons, if_neg (by simp [hexp]), run_pruneNames_kept _ _ _ _ _ _ hc hexp]
  exact h

/-- A stale directory cannot be removed: the pruning fails at once. -/
theorem prunesAs_stuck (ht : t.Proper) (hdir : isPlain dir = true) (hc : c 0 = false)
    (hexp : expiredName today n = true) (hn : t.find? (t.resolve dir ++ [n]) = some .dir) :
    PrunesAs dir today c (n :: rest) (k + 1) t := by
  have hname : isName n = true := ht.names _ _ hn n (by simp)
  have hu := Action.run_unlink_of_error (ht.unlink_of_dir (isPlain_join hdir hname)
    (t.resolve_join hdir hname ▸ hn))
  unfold PrunesAs
  rw [staleNames_succ_cons, if_pos hexp, run_pruneNames_stuck _ _ _ _ _ _ hc hexp hu]
  refine ⟨fun hall => absurd hn (hall n List.mem_cons_self), fun pre m post h hpre _ => ?_⟩
  cases pre with
  | nil =>
    simp only [List.nil_append, List.cons.injEq] at h
    rw [← h.1]
    simp
  | cons p pre =>
    simp only [List.cons_append, List.cons.injEq] at h
    exact absurd (h.1 ▸ hn) (hpre p List.mem_cons_self)

/-- A stale file is removed, and the rest of the names run on the tree without it, where the
entries of the other names are as they were. -/
theorem PrunesAs.removed (ht : t.Proper) (hdir : isPlain dir = true) (hc : c 0 = false)
    (hexp : expiredName today n = true) {bs : List UInt8}
    (hn : t.find? (t.resolve dir ++ [n]) = some (.file bs)) (hnew : n ∉ rest)
    (h : PrunesAs dir today (fun i => c (i + 1)) rest k (t.without [t.resolve dir ++ [n]])) :
    PrunesAs dir today c (n :: rest) (k + 1) t := by
  have hname : isName n = true := ht.names _ _ hn n (by simp)
  have hu := Action.run_unlink_of_ok (ht.unlink_of_file (isPlain_join hdir hname)
    (t.resolve_join hdir hname ▸ hn))
  rw [t.resolve_join hdir hname] at hu
  have hfind : ∀ m ∈ staleNames today rest k,
      (t.without [t.resolve dir ++ [n]]).find? (t.resolve dir ++ [m]) =
        t.find? (t.resolve dir ++ [m]) :=
    fun m hm => t.find?_without_sibling fun hmn => hnew (hmn ▸ mem_of_mem_staleNames hm)
  obtain ⟨hok, herr⟩ := h
  simp only [Tree.resolve_without] at hok herr
  unfold PrunesAs
  rw [staleNames_succ_cons, if_pos hexp, run_pruneNames_removed _ _ _ _ _ _ hc hexp hu]
  refine ⟨fun hall => ?_, fun pre m post h hpre hm => ?_⟩
  · rw [hok fun m hm => by
      rw [hfind m hm]
      exact hall m (List.mem_cons_of_mem _ hm)]
    simp [Tree.without_without, Except.map]
  · cases pre with
    | nil =>
      simp only [List.nil_append, List.cons.injEq] at h
      rw [← h.1] at hm
      simp [hn] at hm
    | cons p pre =>
      simp only [List.cons_append, List.cons.injEq] at h
      rw [herr pre m post h.2 (fun q hq => by
          rw [hfind q (by simp [h.2, hq])]
          exact hpre q (List.mem_cons_of_mem _ hq))
        (by rw [hfind m (by simp [h.2])]; exact hm)]
      simp [Tree.without_without, h.1, Except.map]

end Steps

/-- Over names of a directory of a proper tree, each held once, with the pruning cancelled
when it comes to the `k`-th (or never, when there are no more), the pruning ends as
`PrunesAs` says. -/
theorem run_pruneNames {dir : String} (hdir : isPlain dir = true) (today : Date) :
    ∀ {t : Tree} {names : List String} {c : Nat → Bool} {k : Nat}, t.Proper → names.Nodup →
      (∀ n ∈ names, ∃ e, t.find? (t.resolve dir ++ [n]) = some e) →
      (∀ j < k, c j = false) → (k < names.length → c k = true) →
      PrunesAs dir today c names k t := by
  intro t names
  -- Induction on the names, one step lemma for each way a name's turn goes.
  induction names generalizing t with
  | nil => exact fun _ _ _ _ _ => prunesAs_nil
  | cons n rest ih =>
    intro c k ht hnd hnames hk hstop
    cases k with
    | zero => exact prunesAs_cancelled (hstop (by simp))
    | succ k =>
      have hc : c 0 = false := hk 0 (by omega)
      have hk' : ∀ j < k, c (j + 1) = false := fun j hj => hk (j + 1) (by omega)
      have hstop' : k < rest.length → c (k + 1) = true := fun h => hstop (by simp; omega)
      obtain ⟨hnew, hnd'⟩ := List.nodup_cons.1 hnd
      have hrest : ∀ m ∈ rest, ∃ e, t.find? (t.resolve dir ++ [m]) = some e :=
        fun m hm => hnames m (List.mem_cons_of_mem _ hm)
      obtain ⟨e, hn⟩ := hnames n List.mem_cons_self
      cases hexp : expiredName today n with
      | false => exact (ih ht hnd' hrest hk' hstop').kept hc hexp
      | true =>
        cases e with
        | dir => exact prunesAs_stuck ht hdir hc hexp hn
        | file bs =>
          have hrest₁ : ∀ m ∈ rest, ∃ e, (t.without [t.resolve dir ++ [n]]).find?
              ((t.without [t.resolve dir ++ [n]]).resolve dir ++ [m]) = some e := by
            intro m hm
            have hmn : m ≠ n := fun h => hnew (h ▸ hm)
            rw [Tree.resolve_without, t.find?_without_sibling hmn]
            exact hrest m hm
          exact (ih (ht.without (by simp [hn])) hnd' hrest₁ hk' hstop').removed ht hdir hc hexp
            hn hnew

/-! ## The names the pruning gets -/

variable {t : Tree} {dir : String}

theorem logNames_nodup (ht : t.Proper) (dir : String) : (logNames t dir).Nodup := by
  unfold logNames
  split
  · exact ((Text.perm_sortTexts _).nodup_iff.2 (ht.children_nodup _)).filter _
  · exact List.nodup_nil

/-- The names the pruning looks at are the directory's entries whose names have the shape of
a log file name. -/
theorem mem_logNames (ht : t.Proper) (n : String) :
    n ∈ logNames t dir ↔
      t.isDir dir = true ∧ isLogName n = true ∧ ∃ e, t.find? (t.resolve dir ++ [n]) = some e := by
  unfold logNames
  split
  case isTrue hd =>
    rw [List.mem_filter, Text.mem_sortTexts]
    constructor
    · rintro ⟨hc, hl⟩
      obtain ⟨e, he⟩ := Tree.mem_children hc
      exact ⟨hd, hl, e, (Tree.find?_eq_some_iff ht.nodup).2 he⟩
    · rintro ⟨-, hl, e, he⟩
      exact ⟨ht.mem_children he, hl⟩
  case isFalse hd => simp [hd]

/-- The names come in strict order. -/
theorem pairwise_logNames (ht : t.Proper) (dir : String) : (logNames t dir).Pairwise (· < ·) := by
  unfold logNames
  split
  · exact (Text.pairwise_lt_sortTexts (ht.children_nodup _)).filter _
  · exact List.Pairwise.nil

theorem run_pruneWatching (ht : t.Proper) (hdir : isPlain dir = true) (today : Date)
    (c : Nat → Bool) :
    (pruneWatching dir today c).run t = (pruneNames dir today c (logNames t dir)).run t := by
  unfold pruneWatching logNames
  rw [Action.run_bind, Action.run_isDir]
  by_cases hd : t.isDir dir = true
  · have hl := ht.list_of_dir hdir ((ht.isDir_iff hdir).1 hd)
    simp only [hd, Bool.not_true, Bool.false_eq_true, if_false, if_true]
    rw [Action.run_bind, Action.run_list, hl]
  · simp only [Bool.not_eq_true] at hd
    simp [hd, pruneNames]

/-- Pruning a directory of a proper tree, cancelled when it comes to the `k`-th log file name
(or never, past the last): the names looked at are the directory's entries that have the
shape of a log file name, in strict order, and a name is stale when its day can be read and
lies more than seven days before today. When every stale name among the first `k` belongs to
a file, exactly those files are removed and named, in order, and every other entry is left
as it was; when one belongs to a directory, the pruning fails there with the files before
it removed and nothing else changed. -/
theorem prune_removes_expired (ht : t.Proper) (hdir : isPlain dir = true) (today : Date)
    (c : Nat → Bool) (k : Nat) (hk : ∀ j < k, c j = false)
    (hstop : k < (logNames t dir).length → c k = true) :
    (∀ n, n ∈ logNames t dir ↔
      t.isDir dir = true ∧ isLogName n = true ∧ ∃ e, t.find? (t.resolve dir ++ [n]) = some e) ∧
    (logNames t dir).Pairwise (· < ·) ∧
    (∀ n, expiredName today n = true ↔
      ∃ d, dayOfName n = some d ∧ d.ordinal + retentionDays < today.ordinal) ∧
    ((∀ n ∈ staleNames today (logNames t dir) k, t.find? (t.resolve dir ++ [n]) ≠ some .dir) →
      (pruneWatching dir today c).run t =
        (.ok (staleNames today (logNames t dir) k),
          t.without ((staleNames today (logNames t dir) k).map (t.resolve dir ++ [·])))) ∧
    (∀ pre n post, staleNames today (logNames t dir) k = pre ++ n :: post →
      (∀ m ∈ pre, t.find? (t.resolve dir ++ [m]) ≠ some .dir) →
      t.find? (t.resolve dir ++ [n]) = some .dir →
      (pruneWatching dir today c).run t =
        (.error (Fault.isDir (Files.join dir n)).toFailure,
          t.without (pre.map (t.resolve dir ++ [·])))) := by
  have hnames : ∀ n ∈ logNames t dir, ∃ e, t.find? (t.resolve dir ++ [n]) = some e :=
    fun n hn => ((mem_logNames ht n).1 hn).2.2
  obtain ⟨hok, herr⟩ := run_pruneNames hdir today ht (logNames_nodup ht dir) hnames hk hstop
  refine ⟨mem_logNames ht, pairwise_logNames ht dir, expiredName_iff today, fun h => ?_,
    fun pre n post h hpre hn => ?_⟩
  · rw [run_pruneWatching ht hdir, hok h]
  · rw [run_pruneWatching ht hdir, herr pre n post h hpre hn]

/-- A log directory with logs of the last twelve days. -/
def recentLogs : Tree where
  entries := [([], .dir), (["logs"], .dir), (["logs", "checkpipe-2026-01-15.log"], .file []),
    (["logs", "checkpipe-2026-01-08.log"], .file []), (["logs", "checkpipe-2026-01-07.log"], .file []),
    (["logs", "checkpipe-2026-01-04.log"], .file []), (["logs", "notes.txt"], .file [])]

/-- On the fifteenth, the logs of the seventh and the fourth are removed, in order, and the
log of the eighth stays. -/
theorem prune_removes_expired_sample :
    recentLogs.Proper ∧ isPlain "/logs" = true ∧
      (pruneWatching "/logs" ⟨2026, 1, 15⟩ (fun _ => false)).run recentLogs =
        (.ok ["checkpipe-2026-01-04.log", "checkpipe-2026-01-07.log"],
          recentLogs.without [["logs", "checkpipe-2026-01-04.log"], ["logs", "checkpipe-2026-01-07.log"]]) := by
  have ht : recentLogs.Proper := by decide +kernel
  have hd : isPlain "/logs" = true := by decide +kernel
  have hlen : (logNames recentLogs "/logs").length = 4 := by decide +kernel
  have hstale : staleNames ⟨2026, 1, 15⟩ (logNames recentLogs "/logs") 4 =
      ["checkpipe-2026-01-04.log", "checkpipe-2026-01-07.log"] := by decide +kernel
  obtain ⟨-, -, -, hok, -⟩ := prune_removes_expired ht hd ⟨2026, 1, 15⟩ (fun _ => false) 4
    (fun _ _ => rfl) (fun h => absurd (hlen ▸ h) (Nat.lt_irrefl 4))
  refine ⟨ht, hd, ?_⟩
  rw [hok (by rw [hstale]; decide +kernel), hstale]
  decide +kernel

/-- A directory with a stale log name, and a stale log file after it. -/
def strandedLogs : Tree where
  entries := [([], .dir), (["logs"], .dir), (["logs", "checkpipe-2020-01-01.log"], .dir),
    (["logs", "checkpipe-2020-01-02.log"], .file [])]

/-- A stale log name held by a directory stops the pruning with a failure, and the stale log
file after it stays. -/
theorem prune_stops_at_directory :
    (prune "/logs" ⟨2026, 1, 15⟩ false).run strandedLogs =
      (.error (Fault.isDir "/logs/checkpipe-2020-01-01.log").toFailure, strandedLogs) := by
  decide +kernel

end Preflight.Log
