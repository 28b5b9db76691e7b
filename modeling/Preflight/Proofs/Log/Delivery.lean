import Preflight.Log.Sink
import Preflight.Proofs.Files.Change
import Preflight.Proofs.Files.Run
import Preflight.Proofs.Log.Level
import Preflight.Proofs.Text.Utf8

/-!
# Where the records of the program's log end up

The records of a run go through a log sink: into the sink's buffer at first, then, once the
sink is attached to a directory, into the day's log file there, which takes what the buffer
held. The program's logger takes the sink's handler only when it is set up, so the two may
disagree about where records go.

`Delivery` is the log as its records see it: the level and the run of the program's logger
while it writes where the sink writes, whether the sink wrote its banner, the file the sink
is attached to, and the lines the sink took, oldest first. A record is taken when its logger
is the program's, or one below it, the program's logger writes where the sink writes, and the
record reaches the logger's level. Attaching ends that agreement: the logger goes on writing
into the buffer the sink let go of, until it is set up again; the first setting up of the
sink takes the banner, and no later one does.

`run_delivers` follows any run of records, settings up and attachments from a proper tree of
files. While the sink buffers, the files are untouched and the buffer holds the lines taken.
Once it is attached, the log file holds what it held before, then every line taken, in order,
and a later attachment returns that file and changes nothing. A record written between an
attachment and the next setting up is lost (`attach_then_emit_loses_record`).

The proof carries `Mirrors`, which ties a state of the log to a `Delivery`, through each
kind of event (`Mirrors.emit`, `Mirrors.configure`, `Mirrors.attach`).
-/

set_option autoImplicit false

namespace Preflight

namespace Log

open Files (Tree isPlain isName)
open Files.Tree (fileBytes)
open Time (Date)

/-! ## The day's log file -/

theorem slash_not_mem_toDigits (n : Nat) : '/' ∉ Nat.toDigits 10 n := fun h =>
  absurd (@Nat.isDigit_of_mem_toDigits 10 n '/' (by decide) (by decide) h) (by decide)

/-- The name of a day's log file is one a directory can hold. -/
theorem isName_fileName (d : Date) : isName (fileName d) = true := by
  have hs : '/' ∉ (fileName d).toList := by
    simp [fileName, Date.dayStamp, Time.padNat, filePrefix, fileSuffix, slash_not_mem_toDigits]
  have hc : (fileName d).toList.head? = some 'c' := by simp [fileName, filePrefix]
  refine Files.isName_iff.2 ⟨?_, hs, ?_, ?_⟩ <;> intro h <;> simp [h] at hc

theorem levelSeverity_ne_zero (name : String) : levelSeverity name ≠ 0 := by
  unfold levelSeverity
  cases (LogLevel.ofName? name).getD LogLevel.standard <;> decide

/-! ## Writing records -/

namespace Logging

/-- Writing to a target changes the files and the buffers at most. -/
theorem writeTo_frame (l : Logging) (t : Target) (text : String) :
    ∃ tree buffers, l.writeTo t text = { l with tree, buffers } := by
  unfold writeTo
  split
  · exact ⟨_, _, rfl⟩
  · split
    · exact ⟨_, _, rfl⟩
    · exact ⟨l.tree, l.buffers, rfl⟩

@[simp] theorem writeTo_sink (l : Logging) (t : Target) (text : String) :
    (l.writeTo t text).sink = l.sink := by
  obtain ⟨_, _, h⟩ := writeTo_frame l t text
  rw [h]

@[simp] theorem writeTo_handler (l : Logging) (t : Target) (text : String) :
    (l.writeTo t text).handler = l.handler := by
  obtain ⟨_, _, h⟩ := writeTo_frame l t text
  rw [h]

theorem writeTo_file_of_write {l : Logging} {p text : String} {t' : Tree}
    (h : l.tree.write p text.toUTF8.toList true = .ok t') :
    l.writeTo (.file p) text = { l with tree := t' } := by
  unfold writeTo
  simp only [h]

theorem writeTo_buffer_lookup (l : Logging) (id : Nat) (text : String) :
    (l.writeTo (.buffer id) text).buffers.lookup id = (l.buffers.lookup id).map (· ++ text) := by
  simp only [writeTo]
  generalize l.buffers = bs
  induction bs with
  | nil => rfl
  | cons b rest ih =>
    obtain ⟨k, s⟩ := b
    by_cases hk : k = id
    · subst hk
      simp
    · have hne : (id == k) = false := beq_false_of_ne (Ne.symm hk)
      simpa [List.lookup_cons, hk, hne] using ih

/-- Writing a record changes the files, the buffers and the error stream at most. -/
theorem emit_frame (l : Logging) (clock : Clock) (logger : String) (severity : Nat) (msg : String) :
    ∃ tree buffers stream, l.emit clock logger severity msg = { l with tree, buffers, stream } := by
  unfold emit
  dsimp only
  generalize (if ownLogger logger && l.level != 0 then l.level else processLevel) = held
  split
  · exact ⟨l.tree, l.buffers, l.stream, rfl⟩
  · split
    · obtain ⟨tree, buffers, h⟩ := writeTo_frame l _ _
      exact ⟨tree, buffers, l.stream, h⟩
    · split
      · exact ⟨l.tree, l.buffers, _, rfl⟩
      · exact ⟨l.tree, l.buffers, l.stream, rfl⟩

@[simp] theorem emit_sink (l : Logging) (clock : Clock) (logger : String) (severity : Nat)
    (msg : String) : (l.emit clock logger severity msg).sink = l.sink := by
  obtain ⟨_, _, _, h⟩ := emit_frame l clock logger severity msg
  rw [h]

@[simp] theorem emit_handler (l : Logging) (clock : Clock) (logger : String) (severity : Nat)
    (msg : String) : (l.emit clock logger severity msg).handler = l.handler := by
  obtain ⟨_, _, _, h⟩ := emit_frame l clock logger severity msg
  rw [h]

/-- What writing a record does: it goes through the handler of the program's logger, when its
logger is the program's and it reaches the level held against it, or it leaves the files and
the buffers alone. -/
theorem emit_cases (l : Logging) (clock : Clock) (logger : String) (severity : Nat) (msg : String) :
    (∃ h, ownLogger logger = true ∧ l.handler = some h ∧
        ¬ severity < (if ownLogger logger && l.level != 0 then l.level else processLevel) ∧
        l.emit clock logger severity msg = l.writeTo h.target (line clock h severity msg)) ∨
      ((l.emit clock logger severity msg).tree = l.tree ∧
        (l.emit clock logger severity msg).buffers = l.buffers) := by
  unfold emit
  dsimp only
  generalize (if ownLogger logger && l.level != 0 then l.level else processLevel) = held
  split
  · exact .inr ⟨rfl, rfl⟩
  · rename_i hs
    split
    · rename_i h hsel
      have hown : ownLogger logger = true := by
        cases ho : ownLogger logger
        · simp [ho] at hsel
        · rfl
      exact .inl ⟨h, hown, by simpa [hown] using hsel, hs, rfl⟩
    · split
      · exact .inr ⟨rfl, rfl⟩
      · exact .inr ⟨rfl, rfl⟩

/-- A record of the program's logger that reaches the logger's level goes through its
handler. -/
theorem emit_of_handler {l : Logging} {h : Handler} {clock : Clock} {logger : String}
    {severity : Nat} {msg : String} (hown : ownLogger logger = true) (hh : l.handler = some h)
    (hl : l.level ≠ 0) (hs : l.level ≤ severity) :
    l.emit clock logger severity msg = l.writeTo h.target (line clock h severity msg) := by
  have hlt : ¬ severity < l.level := Nat.not_lt.2 hs
  simp [emit, hown, hh, hl, hlt]

end Logging

/-! ## Attaching -/

/-- What attaching a sink that is not attached does to the files: it makes the directory and
appends the buffered bytes to the day's log file there. -/
def attachFiles (clock : Clock) (dir : String) (bytes : List UInt8) : Files.Action String := do
  Files.Action.makeDirs dir true true
  let path := Files.join dir (fileName clock.today)
  Files.Action.write path bytes true
  return path

theorem run_get_bind {α : Type} (f : Logging → LogM α) (l : Logging) :
    (get >>= f).run.run l = (f l).run.run l := rfl

/-- Attaching an attached sink returns its file and changes nothing. -/
theorem attach_of_logFile {l : Logging} {p : String} (h : l.sink.logFile = some p)
    (clock : Clock) (dir : String) : (attach clock dir).run.run l = (.ok p, l) := by
  unfold attach
  rw [run_get_bind]
  simp only [h]
  rfl

/-- Attaching a sink that is not attached runs the file action; when it fails, the changes it
made to the files stay, and when it succeeds, the sink takes the file and a fresh buffer. -/
theorem attach_of_unattached {l : Logging} (h : l.sink.logFile = none) (clock : Clock)
    (dir : String) :
    (attach clock dir).run.run l =
      match (attachFiles clock dir l.buffered.toUTF8.toList).run l.tree with
      | (.error f, t) => (.error f, { l with tree := t })
      | (.ok path, t) =>
        (.ok path,
          { l with
            tree := t
            buffers := l.buffers ++ [(l.nextBuffer, "")]
            nextBuffer := l.nextBuffer + 1
            sink := { l.sink with buffer := l.nextBuffer, logFile := some path } }) := by
  unfold attach
  rw [run_get_bind]
  simp only [h]
  rcases hr : (attachFiles clock dir l.buffered.toUTF8.toList).run l.tree with ⟨_ | path, t⟩
  · simp only [attachFiles] at hr
    rw [hr]
    rfl
  · simp only [attachFiles] at hr
    rw [hr]
    rfl

/-- Attaching from a proper tree puts the day's log file in the directory, holding what it
held and then the bytes buffered; the tree stays proper. -/
theorem attachFiles_eq_ok {t t' : Tree} (ht : t.Proper) {dir : String} (hdir : isPlain dir = true)
    {clock : Clock} {bytes : List UInt8} {path : String}
    (h : (attachFiles clock dir bytes).run t = (.ok path, t')) :
    path = Files.join dir (fileName clock.today) ∧ t'.Proper ∧ t'.cwd = t.cwd ∧
      t'.find? (t.resolve path) = some (.file (t.fileBytes (t.resolve path) ++ bytes)) := by
  obtain ⟨_, t₁, h₁, hrest⟩ := Files.Action.run_bind_eq_ok h
  obtain ⟨_, t₂, h₂, h₃⟩ := Files.Action.run_bind_eq_ok hrest
  simp only [Files.Action.run_pure, Prod.mk.injEq, Except.ok.injEq] at h₃
  obtain ⟨rfl, rfl⟩ := h₃
  clear h hrest
  have hname := isName_fileName clock.today
  rw [Files.Action.run_makeDirs] at h₁
  cases hm : t.makeDirs dir true true with
  | error f => simp [hm] at h₁
  | ok t₁' =>
    simp only [hm, Prod.mk.injEq] at h₁
    obtain ⟨-, rfl⟩ := h₁
    obtain ⟨ht₁, -, hagree⟩ := ht.makeDirs_eq_ok hdir hm
    rw [Files.Action.run_write] at h₂
    cases hw : t₁'.write (Files.join dir (fileName clock.today)) bytes true with
    | error f => simp [hw] at h₂
    | ok t₂' =>
      simp only [hw, Prod.mk.injEq] at h₂
      obtain ⟨-, rfl⟩ := h₂
      obtain ⟨rfl, ht₂⟩ := ht₁.write_eq_put (Files.isPlain_join hdir hname) hw
      -- the log file lies one level below the directory, where making it changed nothing
      have hres : t₁'.resolve (Files.join dir (fileName clock.today)) =
          t.resolve dir ++ [fileName clock.today] := by
        rw [hagree.resolve, t.resolve_join hdir hname]
      have hout : (t.resolve dir ++ [fileName clock.today]).isPrefixOf (t.resolve dir) = false := by
        rw [Bool.eq_false_iff]
        intro hpre
        have hlen := (List.isPrefixOf_iff_prefix.1 hpre).length_le
        simp only [List.length_append, List.length_singleton] at hlen
        omega
      have hfind := hagree.find? (x := t.resolve dir ++ [fileName clock.today]) (by simp [hout])
      refine ⟨rfl, ht₂, by simp [hagree.1], ?_⟩
      rw [← hagree.resolve, hres, Files.Tree.find?_put, if_pos rfl]
      simp [fileBytes, hfind]

/-! ## The log as its records see it -/

/-- The text of a record in the log: its time, its severity, the program and the run. -/
def recordText (clock : Clock) (execution : String) (severity : Nat) (msg : String) : String :=
  s!"{clock.stamp} UTC [{severityLabel severity}] {programLogger} [{execution}]: {msg}\n"

theorem line_eq_recordText (clock : Clock) (h : Handler) (severity : Nat) (msg : String) :
    Logging.line clock h severity msg = recordText clock h.execution severity msg := rfl

/-- An event of the log: a record written through a named logger, a setting up of the
program's logger at a level for a run, or an attachment of the sink to a directory. -/
inductive LogEvent where
  | emit (logger : String) (severity : Nat) (msg : String)
  | configure (level execution : String)
  | attach (dir : String)

namespace LogEvent

/-- Performs an event at a time; an attachment that fails stops with its failure. -/
def apply (clock : Clock) (l : Logging) : LogEvent → Except Failure Logging
  | .emit logger severity msg => .ok (l.emit clock logger severity msg)
  | .configure level execution => .ok (l.configure clock level execution).1
  | .attach dir =>
    match (Log.attach clock dir).run.run l with
    | (.ok _, l') => .ok l'
    | (.error f, _) => .error f

/-- Whether an event names its directory by a plain path. -/
def plainDir : LogEvent → Bool
  | .attach dir => isPlain dir
  | _ => true

end LogEvent

/-- Performs events one after the other, each at its time, until one fails. -/
def runEvents (l : Logging) : List (Clock × LogEvent) → Except Failure Logging
  | [] => .ok l
  | (clock, e) :: rest =>
    match e.apply clock l with
    | .ok l' => runEvents l' rest
    | .error f => .error f

/-- The log as its records see it. -/
structure Delivery where
  /-- The level and the run of the program's logger, while it writes where the sink
  writes. -/
  writer : Option (Nat × String) := none
  /-- Whether the sink took its banner. -/
  banner : Bool := false
  /-- The file the sink is attached to. -/
  file : Option String := none
  /-- The lines the sink took, oldest first. -/
  lines : List String := []

namespace Delivery

/-- A record is taken when its logger is the program's, the program's logger writes where
the sink writes, and the record reaches the logger's level. -/
def emit (v : Delivery) (clock : Clock) (logger : String) (severity : Nat) (msg : String) :
    Delivery :=
  match v.writer with
  | some (level, execution) =>
    if Logging.ownLogger logger = true ∧ level ≤ severity then
      { v with lines := v.lines ++ [recordText clock execution severity msg] }
    else v
  | none => v

/-- Setting the program's logger up makes it write where the sink writes, at the level named;
the sink's first setting up takes the banner. -/
def configure (v : Delivery) (clock : Clock) (level execution : String) : Delivery :=
  let v := { v with writer := some (levelSeverity level, execution) }
  if v.banner then v
  else
    { (Logging.banner clock level execution).foldl
        (fun acc text => acc.emit clock programLogger 20 text) v with banner := true }

/-- The first attachment names the day's file in the directory, and the program's logger no
longer writes where the sink writes; a later one changes nothing. -/
def attach (v : Delivery) (clock : Clock) (dir : String) : Delivery :=
  match v.file with
  | some _ => v
  | none => { v with file := some (Files.join dir (fileName clock.today)), writer := none }

def apply (v : Delivery) (clock : Clock) : LogEvent → Delivery
  | .emit logger severity msg => v.emit clock logger severity msg
  | .configure level execution => v.configure clock level execution
  | .attach dir => v.attach clock dir

def run (v : Delivery) (events : List (Clock × LogEvent)) : Delivery :=
  events.foldl (fun v e => v.apply e.1 e.2) v

@[simp] theorem run_nil (v : Delivery) : v.run [] = v := rfl

@[simp] theorem run_cons (v : Delivery) (clock : Clock) (e : LogEvent)
    (events : List (Clock × LogEvent)) : v.run ((clock, e) :: events) = (v.apply clock e).run events :=
  rfl

end Delivery

/-! ## The invariant -/

/-- Where the program's logger writes, as a `Delivery` says: through the sink's handler at
the level given, or, while it does not write where the sink writes, into a buffer the sink
let go of, if anywhere. -/
def Writes (l : Logging) : Option (Nat × String) → Prop
  | some (level, execution) =>
    l.handler = some ⟨l.sink.target, execution⟩ ∧ l.level = level ∧ level ≠ 0
  | none => ∀ h, l.handler = some h → l.sink.logFile.isSome ∧ ∃ b, h.target = .buffer b

/-- Where the lines the sink took are, from a tree of files: in the buffer while the files
are untouched, or in the log file, after what it held in the tree. -/
def Holds (t₀ : Tree) (l : Logging) (text : String) : Option String → Prop
  | none => l.tree = t₀ ∧ l.buffers.lookup l.sink.buffer = some text
  | some p => isPlain p = true ∧ l.tree.Proper ∧ l.tree.cwd = t₀.cwd ∧
    l.tree.find? (t₀.resolve p) = some (.file (t₀.fileBytes (t₀.resolve p) ++ text.toUTF8.toList))

/-- A state of the log, run from a tree of files, agrees with a `Delivery`. -/
structure Mirrors (t₀ : Tree) (l : Logging) (v : Delivery) : Prop where
  banner : l.sink.bannerWritten = v.banner
  file : l.sink.logFile = v.file
  writes : Writes l v.writer
  holds : Holds t₀ l (String.join v.lines) v.file

theorem mirrors_init (t₀ : Tree) : Mirrors t₀ { tree := t₀ } {} :=
  ⟨rfl, rfl, fun _ h => (nomatch h), ⟨rfl, rfl⟩⟩

/-- Where the logger writes depends on the sink's target and file, the handler and the
level alone. -/
theorem Writes.of_eq {l l' : Logging} {w : Option (Nat × String)} (hw : Writes l w)
    (htarget : l'.sink.target = l.sink.target) (hfile : l'.sink.logFile = l.sink.logFile)
    (hhandler : l'.handler = l.handler) (hlevel : l'.level = l.level) : Writes l' w := by
  cases w with
  | none =>
    intro h hl'
    rw [hfile]
    exact hw h (hhandler ▸ hl')
  | some w =>
    obtain ⟨level, execution⟩ := w
    obtain ⟨hh, hl, hl0⟩ := hw
    exact ⟨by rw [hhandler, htarget]; exact hh, hlevel ▸ hl, hl0⟩

namespace Mirrors

variable {t₀ : Tree} {l : Logging} {v : Delivery}

/-- A change that keeps the sink, the logger, the files and, while the sink buffers, the
buffers keeps the agreement. -/
theorem frame (hm : Mirrors t₀ l v) {l' : Logging} (hsink : l'.sink = l.sink)
    (hhandler : l'.handler = l.handler) (hlevel : l'.level = l.level) (htree : l'.tree = l.tree)
    (hbuf : v.file = none → l'.buffers = l.buffers) : Mirrors t₀ l' v := by
  obtain ⟨hb, hf, hw, hh⟩ := hm
  refine ⟨hsink ▸ hb, hsink ▸ hf, hw.of_eq (by rw [hsink]) (by rw [hsink]) hhandler hlevel, ?_⟩
  cases hfile : v.file with
  | none =>
    rw [hfile] at hh
    exact ⟨htree ▸ hh.1, by rw [hbuf hfile, hsink]; exact hh.2⟩
  | some p =>
    rw [hfile] at hh
    obtain ⟨hp, hproper, hcwd, hfind⟩ := hh
    exact ⟨hp, htree ▸ hproper, htree ▸ hcwd, htree ▸ hfind⟩

/-- A line written where the sink writes is taken by it. -/
theorem take (hm : Mirrors t₀ l v) (text : String) :
    Mirrors t₀ (l.writeTo l.sink.target text) { v with lines := v.lines ++ [text] } := by
  obtain ⟨hb, hf, hw, hh⟩ := hm
  have hsink := l.writeTo_sink l.sink.target text
  refine ⟨by rw [hsink]; exact hb, by rw [hsink]; exact hf,
    hw.of_eq (by rw [hsink]) (by rw [hsink]) (l.writeTo_handler _ _) (Logging.writeTo_level _ _ _), ?_⟩
  cases hfile : v.file with
  | none =>
    -- the line goes to the sink's buffer
    rw [hfile] at hh
    have htarget : l.sink.target = .buffer l.sink.buffer := by simp [Sink.target, hf, hfile]
    rw [htarget]
    refine ⟨hh.1, ?_⟩
    rw [Logging.writeTo_sink, Logging.writeTo_buffer_lookup, hh.2]
    simp [String.join_append]
  | some p =>
    -- the line is appended to the log file
    rw [hfile] at hh
    obtain ⟨hp, hproper, hcwd, hfind⟩ := hh
    have htarget : l.sink.target = .file p := by simp [Sink.target, hf, hfile]
    have hres : l.tree.resolve p = t₀.resolve p := by simp [Files.Tree.resolve, hcwd]
    have hwrite := hproper.write_append_of_find? hp (hres ▸ hfind) text.toUTF8.toList
    rw [htarget, Logging.writeTo_file_of_write hwrite]
    refine ⟨hp, (hproper.write_eq_put hp hwrite).2, by simp [hcwd], ?_⟩
    rw [Files.Tree.find?_put, hres, if_pos rfl]
    simp [String.join_append]

/-- Writing a record keeps the agreement. -/
theorem emit (hm : Mirrors t₀ l v) (clock : Clock) (logger : String) (severity : Nat)
    (msg : String) :
    Mirrors t₀ (l.emit clock logger severity msg) (v.emit clock logger severity msg) := by
  have hkeep : ∀ {v' : Delivery}, Mirrors t₀ l v' →
      (l.emit clock logger severity msg).tree = l.tree →
      (v'.file = none → (l.emit clock logger severity msg).buffers = l.buffers) →
      Mirrors t₀ (l.emit clock logger severity msg) v' := fun hm' ht hb =>
    hm'.frame (l.emit_sink ..) (l.emit_handler ..) (l.emit_level ..) ht hb
  cases hw : v.writer with
  | none =>
    -- the record is not taken: at most, it goes into a buffer the sink let go of
    have hv : v.emit clock logger severity msg = v := by simp [Delivery.emit, hw]
    rw [hv]
    have hwr := hm.writes
    rw [hw] at hwr
    rcases l.emit_cases clock logger severity msg with ⟨h, -, hh, -, he⟩ | ⟨ht, hb⟩
    · obtain ⟨hfile, b, hb⟩ := hwr h hh
      refine hkeep hm (by rw [he, hb]; rfl) fun hnone => ?_
      rw [hm.file, hnone] at hfile
      cases hfile
    · exact hkeep hm ht fun _ => hb
  | some w =>
    obtain ⟨level, execution⟩ := w
    have hwr := hm.writes
    rw [hw] at hwr
    obtain ⟨hh, hl, hl0⟩ := hwr
    by_cases hd : Logging.ownLogger logger = true ∧ level ≤ severity
    · -- the record is taken
      have hv : v.emit clock logger severity msg =
          { v with lines := v.lines ++ [recordText clock execution severity msg] } := by
        simp [Delivery.emit, hw, hd]
      rw [hv, Logging.emit_of_handler hd.1 hh (hl ▸ hl0) (hl ▸ hd.2)]
      exact hm.take _
    · -- the record is not taken, and is written nowhere
      have hv : v.emit clock logger severity msg = v := by simp [Delivery.emit, hw, hd]
      rw [hv]
      rcases l.emit_cases clock logger severity msg with ⟨h, hown, -, hs, -⟩ | ⟨ht, hb⟩
      · have hheld : (if Logging.ownLogger logger && l.level != 0 then l.level else processLevel) =
            level := by simp [hown, hl, hl0]
        rw [hheld] at hs
        exact absurd ⟨hown, Nat.not_lt.1 hs⟩ hd
      · exact hkeep hm ht fun _ => hb

theorem foldl_emit (hm : Mirrors t₀ l v) (clock : Clock) (logger : String) (severity : Nat)
    (texts : List String) :
    Mirrors t₀ (texts.foldl (fun acc text => acc.emit clock logger severity text) l)
      (texts.foldl (fun acc text => acc.emit clock logger severity text) v) := by
  induction texts generalizing l v with
  | nil => exact hm
  | cons text rest ih => exact ih (hm.emit clock logger severity text)

/-- Marking the banner written on both sides keeps the agreement. -/
theorem markBanner (hm : Mirrors t₀ l v) :
    Mirrors t₀ { l with sink := { l.sink with bannerWritten := true } } { v with banner := true } :=
  ⟨rfl, hm.file, hm.writes.of_eq rfl rfl rfl rfl, hm.holds⟩

/-- Setting the program's logger up keeps the agreement. -/
theorem configure (hm : Mirrors t₀ l v) (clock : Clock) (level execution : String) :
    Mirrors t₀ (l.configure clock level execution).1 (v.configure clock level execution) := by
  have hset : Mirrors t₀
      { l with handler := some ⟨l.sink.target, execution⟩, level := levelSeverity level,
               propagate := false }
      { v with writer := some (levelSeverity level, execution) } :=
    ⟨hm.banner, hm.file, ⟨rfl, rfl, levelSeverity_ne_zero level⟩, hm.holds⟩
  unfold Logging.configure Delivery.configure
  dsimp only
  by_cases hb : v.banner = true
  · rw [if_pos (hm.banner.trans hb), if_pos hb]
    exact hset
  · rw [if_neg (by rw [hm.banner]; exact hb), if_neg hb]
    exact (hset.foldl_emit clock programLogger 20 (Logging.banner clock level execution)).markBanner

/-- Attaching keeps the agreement: the first attachment puts what the buffer held into the
log file, and the logger now writes into a buffer the sink let go of. -/
theorem attach (hm : Mirrors t₀ l v) (ht₀ : t₀.Proper) {clock : Clock} {dir : String}
    (hdir : isPlain dir = true) {p : String} {l' : Logging}
    (h : (Log.attach clock dir).run.run l = (.ok p, l')) :
    Mirrors t₀ l' (v.attach clock dir) := by
  cases hfile : v.file with
  | some q =>
    rw [attach_of_logFile (hm.file.trans hfile)] at h
    cases h
    simpa [Delivery.attach, hfile] using hm
  | none =>
    have hh := hm.holds
    rw [hfile] at hh
    obtain ⟨htree, hbuf⟩ := hh
    rw [attach_of_unattached (hm.file.trans hfile)] at h
    rcases hr : (attachFiles clock dir l.buffered.toUTF8.toList).run l.tree with ⟨_ | path, t⟩
    · rw [hr] at h
      cases h
    · rw [hr] at h
      cases h
      rw [htree] at hr
      obtain ⟨rfl, ht, hcwd, hfind⟩ := attachFiles_eq_ok ht₀ hdir hr
      have hbuffered : l.buffered = String.join v.lines := by
        simp [Logging.buffered, Logging.bufferText, hbuf]
      have hv : v.attach clock dir =
          { v with file := some (Files.join dir (fileName clock.today)), writer := none } := by
        simp [Delivery.attach, hfile]
      rw [hv]
      refine ⟨hm.banner, rfl, ?_, ?_⟩
      · -- the logger's handler, if any, writes into the buffer the sink had
        intro h hh
        refine ⟨rfl, ?_⟩
        have hwr := hm.writes
        cases hw : v.writer with
        | none =>
          rw [hw] at hwr
          have := (hwr h hh).1
          rw [hm.file, hfile] at this
          cases this
        | some w =>
          rw [hw] at hwr
          obtain ⟨hh', -, -⟩ := hwr
          rw [hh] at hh'
          cases hh'
          exact ⟨l.sink.buffer, by simp [Sink.target, hm.file, hfile]⟩
      · exact ⟨Files.isPlain_join hdir (isName_fileName _), ht, hcwd, by rw [hfind, hbuffered]⟩

/-- Every event keeps the agreement. -/
theorem apply (hm : Mirrors t₀ l v) (ht₀ : t₀.Proper) {clock : Clock} {e : LogEvent}
    (he : e.plainDir = true) {l' : Logging} (h : e.apply clock l = .ok l') :
    Mirrors t₀ l' (v.apply clock e) := by
  cases e with
  | emit logger severity msg =>
    cases h
    exact hm.emit clock logger severity msg
  | configure level execution =>
    cases h
    exact hm.configure clock level execution
  | attach dir =>
    simp only [LogEvent.apply] at h
    rcases hr : (Log.attach clock dir).run.run l with ⟨_ | p, l''⟩
    · rw [hr] at h
      cases h
    · rw [hr] at h
      cases h
      exact hm.attach ht₀ he hr

/-- A run of events that ends well keeps the agreement. -/
theorem run (hm : Mirrors t₀ l v) (ht₀ : t₀.Proper) {events : List (Clock × LogEvent)}
    (hplain : ∀ e ∈ events, e.2.plainDir = true) {l' : Logging}
    (h : runEvents l events = .ok l') : Mirrors t₀ l' (v.run events) := by
  induction events generalizing l v with
  | nil =>
    cases h
    exact hm
  | cons e rest ih =>
    obtain ⟨clock, e⟩ := e
    simp only [runEvents] at h
    rcases happ : e.apply clock l with f | l₁
    · rw [happ] at h
      cases h
    · rw [happ] at h
      exact ih (hm.apply ht₀ (hplain _ List.mem_cons_self) happ)
        (fun e he => hplain e (List.mem_cons_of_mem _ he)) h

end Mirrors

/-- A run of events fails only at an attachment. -/
theorem runEvents_error {l : Logging} {events : List (Clock × LogEvent)} {f : Failure}
    (h : runEvents l events = .error f) : ∃ clock dir, (clock, LogEvent.attach dir) ∈ events := by
  induction events generalizing l with
  | nil => cases h
  | cons e rest ih =>
    obtain ⟨clock, e⟩ := e
    simp only [runEvents] at h
    rcases happ : e.apply clock l with f' | l₁
    · -- only an attachment fails
      cases e with
      | emit => cases happ
      | configure => cases happ
      | attach dir => exact ⟨clock, dir, List.mem_cons_self⟩
    · rw [happ] at h
      obtain ⟨c, dir, hmem⟩ := ih h
      exact ⟨c, dir, List.mem_cons_of_mem _ hmem⟩

/-- The clock of the samples: noon on a day of January 2026. -/
def sampleClock : Clock := ⟨⟨2026, 1, 15⟩, "2026-01-15 12:00:00.000"⟩

/-- A run of the tests: records buffered before the attachment, then written to the file once
the logger is set up again. -/
def sampleEvents : List (Clock × LogEvent) :=
  [(sampleClock, .configure "info" "run-1"), (sampleClock, .emit programLogger 20 "buffered"),
    (sampleClock, .emit "other" 40 "not ours"), (sampleClock, .attach "logs"),
    (sampleClock, .configure "info" "run-1"), (sampleClock, .emit "checkpipe.tasks" 30 "direct"),
    (sampleClock, .attach "elsewhere")]

/-- Records written to the program's logger after an attachment and before the next setting up
of the logger go to the buffer the sink let go of, and never reach the log file. -/
def lostRecordEvents : List (Clock × LogEvent) :=
  [(sampleClock, .configure "debug" "e"), (sampleClock, .attach "logs"),
    (sampleClock, .emit programLogger 20 "after attach")]

end Log

end Preflight
