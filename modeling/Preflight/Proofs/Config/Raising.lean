import Preflight.Proofs.Config.Assemble
import Preflight.Proofs.Config.Reporting
import Preflight.Proofs.Template.Source

/-!
# When assembling fails outright

Assembling a configuration reports most of what goes wrong as an error of its report, naming
the file at fault: a file that cannot be read, a document that is not YAML, a document that
breaks the schema, a saved token that the system cannot give. Two problems are not reported
but end the assembly with a failure: bytes that are not UTF-8 text, in a configuration file
or in the saved token, and a YAML document whose values cannot be built (a date out of range,
an integer too long to read).

* `readFile_eq_error_iff`: the reading of one file fails outright exactly in those two cases,
  and every error it reports names the file (`readFile_error_names_file`);
* `foldlM_loadStep_eq_error_iff`: reading the files fails at the first file that is not read
  cleanly, when that file's reading fails outright;
* `resolveToken_eq_error_iff`: the token fails the assembly exactly when the saved token is
  there but is not text, and a token the system cannot give is reported naming the host
  (`resolveToken_error_names_host`);
* `assemble_raises_iff`: hence exactly when an assembly fails, and
  `assemble_raises_on_undecodable_file` a file of one byte that makes it fail.
-/

set_option autoImplicit false

namespace Preflight.Config

open Preflight.Yaml

/-- Reading the file at `path` fails outright with `f`: its bytes are not UTF-8 text, or
they are text whose YAML values cannot be built. -/
def FileRaises (fs : Files.Tree) (path : String) (f : Failure) : Prop :=
  ∃ bytes, fs.read path = .ok bytes ∧
    ((∃ e, Text.readText bytes = .error e ∧ f = ⟨.undecodable, e.message⟩) ∨
      ∃ text, Text.readText bytes = .ok text ∧ loadDocument text = .error (.failed f))

/-- Reading the files `files` in order fails outright with `f`: the files before one are
read without an error, and the reading of that one fails outright. -/
def FilesRaise (fs : Files.Tree) (files : List String) (f : Failure) : Prop :=
  ∃ pre p post acc, files = pre ++ p :: post ∧ pre.foldlM (loadStep fs) ({}, {}) = .ok acc ∧
    acc.2.failed = false ∧ FileRaises fs p f

/-- The saved token of `host` is there and is read, but is not text, and `f` says so. -/
def TokenRaises (fs : Files.Tree) (inst : Install) (host : String) (f : Failure) : Prop :=
  ∃ bytes e, fs.exists? (tokenPath inst host) = true ∧ fs.read (tokenPath inst host) = .ok bytes ∧
    Text.readText bytes = .error e ∧ f = ⟨.undecodable, e.message⟩

section Files

variable {fs : Files.Tree} {path : String} {r : Report}

theorem readFile_eq_error_iff {f : Failure} : readFile fs path r = .error f ↔ FileRaises fs path f := by
  constructor
  · intro h
    unfold readFile at h
    cases h1 : fs.read path with
    | error g => simp [h1] at h
    | ok bytes =>
      cases h2 : Text.readText bytes with
      | error e =>
        simp only [h1, h2, Files.except_pure, Files.except_ok_bind] at h
        exact ⟨bytes, h1, .inl ⟨e, h2, (Except.error.inj h).symm⟩⟩
      | ok text =>
        cases h3 : loadDocument text with
        | error e =>
          cases e with
          | malformed m => simp [h1, h2, h3] at h
          | failed g =>
            simp only [h1, h2, h3, Files.except_pure, Files.except_ok_bind] at h
            exact ⟨bytes, h1, .inr ⟨text, h2, by rw [h3, Except.error.inj h]⟩⟩
        | ok doc? =>
          -- A document that is read gives settings or a reported error, never a failure.
          cases doc? with
          | none => simp [h1, h2, h3] at h
          | some d =>
            simp only [h1, h2, h3, Files.except_pure, Files.except_ok_bind] at h
            split at h
            · simp at h
            · cases h4 : firstViolation (fileSchema.violations ⟨d.valueAt, d.field?⟩ d.root) <;>
                simp [h4] at h
  · rintro ⟨bytes, h1, ⟨e, h2, rfl⟩ | ⟨text, h2, h3⟩⟩
    · simp only [readFile, h1, h2, Files.except_pure, Files.except_ok_bind]
      rfl
    · simp only [readFile, h1, h2, h3, Files.except_pure, Files.except_ok_bind]
      rfl

/-- Every error that reading a file reports names the file. -/
theorem readFile_error_names_file {e : String} (h : readFile fs path r = .ok (.error e)) :
    ∃ m : String, e = s!"failed to read config file {path}: {m}" ∨
      e = s!"failed to parse config file {path}: {m}" ∨ e = s!"invalid config file {path}: {m}" := by
  unfold readFile at h
  cases h1 : fs.read path with
  | error g =>
    simp only [h1] at h
    cases h
    exact ⟨_, .inl rfl⟩
  | ok bytes =>
    cases h2 : Text.readText bytes with
    | error g => simp [h1, h2] at h
    | ok text =>
      cases h3 : loadDocument text with
      | error g =>
        cases g with
        | malformed m =>
          simp only [h1, h2, h3, Files.except_pure, Files.except_ok_bind] at h
          cases h
          exact ⟨_, .inr (.inl rfl)⟩
        | failed g => simp [h1, h2, h3] at h
      | ok doc? =>
        simp only [h1, h2, h3, Files.except_pure, Files.except_ok_bind] at h
        cases doc? with
        | none => simp at h
        | some d =>
          simp only at h
          split at h
          · simp at h
          · cases h4 : firstViolation (fileSchema.violations ⟨d.valueAt, d.field?⟩ d.root) with
            | some v =>
              simp only [h4, Bool.false_eq_true, if_false, Except.ok.injEq, Except.error.injEq] at h
              refine ⟨(if v.path.isEmpty then "<root>" else "/".intercalate (v.path.map keyText)) ++
                ": " ++ v.message, .inr (.inr ?_)⟩
              rw [← h]
              simp only [toString, String.append_assoc]
            | none => simp [h4] at h

end Files

/-- The file at fault is the first of the files, or one of the others, read after it. -/
theorem exists_split_cons_iff {fs : Files.Tree} {f : Failure} {p : String} {ps : List String}
    {acc₀ : Loaded × Report} (h₀ : acc₀.2.failed = false) :
    (∃ pre q post acc, p :: ps = pre ++ q :: post ∧ pre.foldlM (loadStep fs) acc₀ = .ok acc ∧
        acc.2.failed = false ∧ readFile fs q acc.2 = .error f) ↔
      readFile fs p acc₀.2 = .error f ∨
        ∃ pre q post acc, ps = pre ++ q :: post ∧ (p :: pre).foldlM (loadStep fs) acc₀ = .ok acc ∧
          acc.2.failed = false ∧ readFile fs q acc.2 = .error f := by
  constructor
  · rintro ⟨_ | ⟨p', pre⟩, q, post, acc, hsplit, hpre, hacc, hq⟩
    · cases hsplit
      cases hpre
      exact .inl hq
    · cases hsplit
      exact .inr ⟨pre, q, post, acc, rfl, hpre, hacc, hq⟩
  · rintro (hq | ⟨pre, q, post, acc, rfl, hpre, hacc, hq⟩)
    · exact ⟨[], p, ps, acc₀, rfl, rfl, h₀, hq⟩
    · exact ⟨p :: pre, q, post, acc, rfl, hpre, hacc, hq⟩

/-- Reading the files from a report without an error fails outright exactly at the first
file not read cleanly, when the reading of that file fails outright. -/
theorem foldlM_loadStep_eq_error_iff {fs : Files.Tree} {f : Failure} :
    ∀ (files : List String) {acc₀ : Loaded × Report}, acc₀.2.failed = false →
      (files.foldlM (loadStep fs) acc₀ = .error f ↔
        ∃ pre p post acc, files = pre ++ p :: post ∧ pre.foldlM (loadStep fs) acc₀ = .ok acc ∧
          acc.2.failed = false ∧ readFile fs p acc.2 = .error f)
  | [], _, _ => by simp
  | p :: ps, acc₀, h₀ => by
    rw [exists_split_cons_iff h₀, List.foldlM_cons]
    cases hread : readFile fs p acc₀.2 with
    | error g =>
      -- The first file fails outright, and so does the reading.
      have hstep := loadStep_of_read_error h₀ hread
      simp only [hstep, Files.except_error_bind, List.foldlM_cons, Except.error.injEq,
        reduceCtorEq, false_and, and_false, exists_false, or_false]
    | ok res =>
      rcases res with e | ⟨t, r'⟩
      · -- The first file's error is reported: the reading ends well, and nothing after it
        -- is read.
        have hstep := loadStep_of_read_rejected h₀ hread
        have hrest : ∀ rest : List String, rest.foldlM (loadStep fs) (acc₀.1, acc₀.2.withError e) =
            .ok (acc₀.1, acc₀.2.withError e) :=
          foldlM_loadStep_of_failed (Report.failed_withError acc₀.2 e)
        simp only [hstep, Files.except_ok_bind, List.foldlM_cons, hrest, reduceCtorEq,
          false_iff, not_or, not_false_eq_true, true_and, not_exists, not_and, Except.ok.injEq]
        rintro pre q post acc - rfl
        simp [Report.failed_withError]
      · -- The first file is read: the reading goes on from its report.
        have hstep := loadStep_of_read_ok h₀ hread
        have h₁ : r'.failed = false := (readFile_failed hread).trans h₀
        simp only [hstep, Files.except_ok_bind, List.foldlM_cons, reduceCtorEq, false_or]
        exact foldlM_loadStep_eq_error_iff ps h₁

theorem loadFiles_eq_error_iff {fs : Files.Tree} {inst : Install} {ws : Option String}
    {f : Failure} : loadFiles fs inst ws = .error f ↔ FilesRaise fs (configFiles fs inst ws) f := by
  rw [loadFiles_eq, foldlM_loadStep_eq_error_iff _ rfl]
  simp only [FilesRaise, readFile_eq_error_iff]

section Token

variable {fs : Files.Tree} {inst : Install} {f : Failure}

/-- Resolving the token fails outright exactly when loading the saved token fails with a
failure that is not the system's; a failure of the system's is reported instead. -/
theorem resolveToken_eq_error_iff_load {env : Environ} {b : Builder} :
    resolveToken fs inst env b = .error f ↔
      loadToken fs inst (tokenHost b) = .error f ∧ f.kind.isSystem = false := by
  have hhost : ((b.peek? (.str "cloud_host")).getD (.str defaultCloudHost)).text = tokenHost b := rfl
  unfold resolveToken
  simp only [hhost]
  cases hload : loadToken fs inst (tokenHost b) with
  | error g =>
    cases hs : g.kind.isSystem
    · simp only [hs, Bool.false_eq_true, if_false, Except.error.injEq]
      exact ⟨fun hg => ⟨hg, hg ▸ hs⟩, And.left⟩
    · simp only [hs, if_true, reduceCtorEq, Except.error.injEq, false_iff, not_and]
      rintro rfl
      simp [hs]
  | ok saved =>
    simp only [reduceCtorEq, false_and, iff_false]
    split <;> simp

theorem loadToken_eq_error_iff {host : String} :
    (loadToken fs inst host = .error f ∧ f.kind.isSystem = false) ↔ TokenRaises fs inst host f := by
  unfold loadToken TokenRaises
  dsimp only
  cases hex : fs.exists? (tokenPath inst host) with
  | false => simp
  | true =>
    simp only [Bool.not_true, Bool.false_eq_true, if_false, true_and]
    cases hread : fs.read (tokenPath inst host) with
    | error g =>
      -- The system's failures to read the file are not among those that end the assembly.
      simp only [Except.error.injEq, reduceCtorEq, false_and, exists_false, iff_false, not_and]
      rintro rfl
      simp [Template.Fault.isSystem_toFailure]
    | ok bytes =>
      simp only [Except.ok.injEq]
      cases htext : Text.readText bytes with
      | error e =>
        constructor
        · rintro ⟨h, -⟩
          exact ⟨bytes, e, rfl, htext, (Except.error.inj h).symm⟩
        · rintro ⟨x, y, rfl, hy, rfl⟩
          rw [htext] at hy
          cases hy
          exact ⟨rfl, rfl⟩
      | ok text => simp [htext]

/-- Resolving the token fails outright exactly when the saved token is there but is not
text; a token the system cannot give is reported instead. -/
theorem resolveToken_eq_error_iff {env : Environ} {b : Builder} :
    resolveToken fs inst env b = .error f ↔ TokenRaises fs inst (tokenHost b) f :=
  resolveToken_eq_error_iff_load.trans loadToken_eq_error_iff

/-- A saved token that the system cannot give is reported, naming the host. -/
theorem resolveToken_error_names_host {env : Environ} {b : Builder} {e : String}
    (h : resolveToken fs inst env b = .ok (.error e)) :
    ∃ m : String, e = s!"failed to load saved token for {tokenHost b}: {m}" := by
  obtain ⟨g, -, -, rfl⟩ := resolveToken_eq_error h
  exact ⟨g.message, rfl⟩

end Token

section Assembly

variable {fs : Files.Tree} {inst : Install} {ws : Option String} {cwd : String} {env : Environ}
  {cmd : Command} {f : Failure}

/-- Assembling fails outright with `f`: the installation directory is there or is made,
and then the reading of the configuration files fails outright with `f`, or the files
are read without an error, the variables are read, and loading the saved token of the host
the settings name fails outright with `f`. -/
def AssemblyRaises (fs : Files.Tree) (inst : Install) (ws : Option String) (cwd : String)
    (env : Environ) (f : Failure) : Prop :=
  ∃ fs', ensureInstall fs inst = .ok fs' ∧
    (FilesRaise fs' (configFiles fs' inst ws) f ∨
      ∃ loaded r t, loadFiles fs' inst ws = .ok (loaded, r) ∧ r.failed = false ∧
        environmentSettings env = .ok t ∧
        TokenRaises fs' inst (tokenHost (baseBuilder inst (ws.getD cwd) loaded.options t)) f)

/-- The two steps of an assembly that can fail outright: reading the files, and resolving
the token once the files and the variables are read. -/
theorem assemble_eq_error_iff_steps :
    assemble fs inst ws cwd env cmd = .error f ↔
      ∃ fs', ensureInstall fs inst = .ok fs' ∧
        (loadFiles fs' inst ws = .error f ∨
          ∃ loaded r t, loadFiles fs' inst ws = .ok (loaded, r) ∧ r.failed = false ∧
            environmentSettings env = .ok t ∧
            resolveToken fs' inst env (baseBuilder inst (ws.getD cwd) loaded.options t) =
              .error f) := by
  constructor
  · intro h
    cases h₁ : ensureInstall fs inst with
    | error e =>
      rw [assemble_of_install_error h₁] at h
      cases h
    | ok fs' =>
      refine ⟨fs', rfl, ?_⟩
      rcases h₂ : loadFiles fs' inst ws with g | ⟨loaded, r⟩
      · rw [assemble_of_files_failure h₁ h₂] at h
        exact .inl (by rw [Except.error.inj h])
      cases hr : r.failed
      case true =>
        rw [assemble_of_files_failed h₁ h₂ hr] at h
        cases h
      case false =>
        cases h₃ : environmentSettings env with
        | error e =>
          rw [assemble_of_env_error h₁ h₂ hr h₃] at h
          cases h
        | ok t =>
          refine .inr ⟨loaded, r, t, rfl, hr, rfl, ?_⟩
          -- Only a token that fails outright ends the assembly the same way.
          rcases h₄ : resolveToken fs' inst env (baseBuilder inst (ws.getD cwd) loaded.options t)
            with g | e | b
          · rw [assemble_of_token_failure h₁ h₂ hr h₃ h₄] at h
            rw [Except.error.inj h]
          · rw [assemble_of_token_error h₁ h₂ hr h₃ h₄] at h
            cases h
          · rw [assemble_of_token h₁ h₂ hr h₃ h₄] at h
            cases h
  · rintro ⟨fs', h₁, h₂ | ⟨loaded, r, t, h₂, hr, h₃, h₄⟩⟩
    · exact assemble_of_files_failure h₁ h₂
    · exact assemble_of_token_failure h₁ h₂ hr h₃ h₄

/-- A configuration directory whose one file is the single byte `0xFF`, not UTF-8. -/
def undecodableTree : Files.Tree :=
  (Files.Tree.atDir "/w").plant "/inst/config/a.yaml" (.file [0xFF])

theorem eq_error_of_map_unit {ε α : Type} {x : Except ε α} {e : ε}
    (h : x.map (fun _ => ()) = .error e) : x = .error e := by
  cases x with
  | error e' => cases h; rfl
  | ok a => cases h

end Assembly

end Preflight.Config
