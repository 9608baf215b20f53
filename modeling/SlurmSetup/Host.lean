import SlurmSetup.Chown
import SlurmSetup.Files

/-!
# The host and the external commands

The state `setup.py` reads and writes: the filesystem, slurm's and munge's ids in the
identity tables, the log. The ops-agent document, which only `setup_cloud_ops` reads or writes,
is kept beside the host by `main` (`MainState`). External commands answer from an
environment `env : String → Answer`; apart from `groupmod` / `usermod`, whose effect on the
identity tables `change_uid_gid_slurm` models, none changes the host.

util's `run` is not under src/. It is modelled with util's default `check=True` (the explicit
`check=False` at `setup.py:256`, `:327`, `:403`, `:568` are the exceptions): a non-zero return
code raises `CalledProcessError`, a command past its timeout raises `TimeoutExpired`, a
command that cannot be started raises `OSError`.
-/

namespace SlurmSetup

/-- What an external command answers. -/
structure Answer where
  returncode : Nat
  stdout : String
  stderr : String
  /-- the command runs past any timeout it is given (and ends without one) -/
  hangs : Bool
  /-- the command cannot be started -/
  startFails : Bool
deriving DecidableEq, Repr

/-- The answers of the external commands. -/
abbrev Env := String → Answer

/-- `util.run` of `cmd` once the command has given the answer `a`. -/
def runAnswer (cmd : String) (a : Answer) (timeout : Option Nat) (check : Bool) : Except PyError Answer :=
  if a.startFails then .error (.osError cmd)
  else if timeout.isSome ∧ a.hangs then .error (.timeoutExpired cmd timeout)
  else if check ∧ a.returncode ≠ 0 then .error (.calledProcessError cmd a.returncode)
  else .ok a

/-- `util.run(cmd, timeout=timeout, check=check)`. -/
def run (env : Env) (cmd : String) (timeout : Option Nat) (check : Bool) : Except PyError Answer :=
  runAnswer cmd (env cmd) timeout check

theorem runAnswer_ok {cmd : String} {a : Answer} {check : Bool} (hs : a.startFails = false)
    (h : a.returncode = 0) : runAnswer cmd a none check = .ok a := by
  simp [runAnswer, hs, h]

/-- With `check=True`, `run` returns only the answer of a command that started and exited 0. -/
theorem runAnswer_check {cmd : String} {a a' : Answer} {t : Option Nat} (e : runAnswer cmd a t true = .ok a') :
    a' = a ∧ a.startFails = false ∧ a.returncode = 0 := by
  unfold runAnswer at e
  split at e
  · cases e
  split at e
  · cases e
  split at e
  · cases e
  · rename_i hs _ hc
    cases e
    exact ⟨rfl, by simpa using hs, by simpa using hc⟩

/-- The host state. -/
structure Host where
  fs : Fs
  /-- slurm's uid (`pwd.getpwnam("slurm")`) and gid (`grp.getgrnam("slurm")`) -/
  slurm : Owner
  /-- munge's uid and gid -/
  munge : Owner
  log : List LogRecord

namespace Host

/-- Append one log record. -/
def logMsg (h : Host) (level : Level) (msg : String) : Host := { h with log := h.log ++ [⟨level, msg⟩] }

/-- The host with the filesystem `fs`. -/
def setFs (h : Host) (fs : Fs) : Host := { h with fs := fs }

/-- The host after `groupmod -g {g} slurm`. -/
def setSlurmGid (h : Host) (g : Nat) : Host := { h with slurm := { h.slurm with gid := g } }

/-- The host after `usermod -u {u} slurm`. -/
def setSlurmUid (h : Host) (u : Nat) : Host := { h with slurm := { h.slurm with uid := u } }

@[simp] theorem logMsg_fs (h : Host) (l : Level) (m : String) : (h.logMsg l m).fs = h.fs := rfl
@[simp] theorem logMsg_slurm (h : Host) (l : Level) (m : String) : (h.logMsg l m).slurm = h.slurm := rfl
@[simp] theorem setFs_fs (h : Host) (fs : Fs) : (h.setFs fs).fs = fs := rfl
@[simp] theorem setFs_slurm (h : Host) (fs : Fs) : (h.setFs fs).slurm = h.slurm := rfl
@[simp] theorem setSlurmGid_fs (h : Host) (g : Nat) : (h.setSlurmGid g).fs = h.fs := rfl
@[simp] theorem setSlurmGid_slurm (h : Host) (g : Nat) : (h.setSlurmGid g).slurm = ⟨h.slurm.uid, g⟩ := rfl
@[simp] theorem setSlurmUid_fs (h : Host) (u : Nat) : (h.setSlurmUid u).fs = h.fs := rfl
@[simp] theorem setSlurmUid_slurm (h : Host) (u : Nat) : (h.setSlurmUid u).slurm = ⟨u, h.slurm.gid⟩ := rfl
@[simp] theorem setFs_log (h : Host) (fs : Fs) : (h.setFs fs).log = h.log := rfl
@[simp] theorem setSlurmGid_log (h : Host) (g : Nat) : (h.setSlurmGid g).log = h.log := rfl
@[simp] theorem setSlurmUid_log (h : Host) (u : Nat) : (h.setSlurmUid u).log = h.log := rfl

end Host

/-- `n` runs of `f` one after the other, stopping at the first that raises. -/
def repeatRun (f : Host → Except PyError Host) (n : Nat) (h : Host) : Except PyError Host :=
  (fun r => r >>= f)^[n] (.ok h)

theorem repeatRun_succ (f : Host → Except PyError Host) (n : Nat) (h : Host) :
    repeatRun f (n + 1) h = f h >>= repeatRun f n := by
  have herr : ∀ (k : Nat) (e : PyError), (fun r => r >>= f)^[k] (.error e) = .error e := by
    intro k e; induction k with
    | zero => rfl
    | succ k ih => rw [Function.iterate_succ_apply']; rw [ih]; rfl
  unfold repeatRun
  rw [Function.iterate_succ_apply]
  show (fun r => r >>= f)^[n] (f h) = f h >>= fun h1 => (fun r => r >>= f)^[n] (.ok h1)
  cases f h with
  | error e => exact herr n e
  | ok h1 => rfl

/-! ## util -/

/-- util's helpers that `setup.py` calls. util is not under src/: they are parameters, each
with what the proofs assume of it. -/
structure Util where
  /-- `util.chown_slurm(path, mode)` on the filesystem, with slurm's ids -/
  chownSlurmFs : Fs → Owner → Path → Except PyError Fs
  /-- it may add entries (a missing `path`) and change owners and modes, nothing else of the
  tree -/
  chownSlurmFs_grows : ∀ fs o p fs', chownSlurmFs fs o p = .ok fs' → fs.Grows fs'
  /-- `util.mkdirp(path)` -/
  mkdirp : Fs → Path → Except PyError Fs
  /-- it may add entries, nothing else -/
  mkdirp_grows : ∀ fs p fs', mkdirp fs p = .ok fs' → fs.Grows fs'
  /-- `util.scripts_dir` -/
  scriptsDir : Path
  scriptsDir_valid : ∀ c ∈ scriptsDir, ValidName c
  /-- `util.install_custom_scripts()` -/
  installCustomScripts : Host → Except PyError Host
  /-- `util.instance_metadata(key)` -/
  instanceMetadata : String → Except PyError String

/-- `util.chown_slurm(path)` on the host: slurm's ids come from the identity tables. -/
def Util.chownSlurm (u : Util) (h : Host) (p : Path) : Except PyError Host := do
  let fs ← u.chownSlurmFs h.fs h.slurm p
  pure (h.setFs fs)

theorem Util.chownSlurm_grows (u : Util) (h : Host) (p : Path) (h' : Host) (e : u.chownSlurm h p = .ok h') :
    h.fs.Grows h'.fs := by
  obtain ⟨fs, hfs, e⟩ := bind_eq_ok.1 e
  cases e
  exact u.chownSlurmFs_grows _ _ _ _ hfs

/-- `shutil.chown(path, user="slurm", group="slurm")` on a path that exists. -/
def chownSlurmBasic (fs : Fs) (slurm : Owner) (p : Path) : Except PyError Fs := do
  let q ← fs.stat p
  pure (fs.withOwner (Function.update fs.owner q slurm))

/-- util with `chown_slurm` as `chownSlurmBasic`, `mkdirp` as `os.makedirs(path, exist_ok=True)`,
the scripts in `/slurm/scripts`, no custom scripts to install and no instance metadata. -/
def Util.basic : Util where
  chownSlurmFs := chownSlurmBasic
  chownSlurmFs_grows fs o p fs' e := by
    obtain ⟨q, -, e⟩ := bind_eq_ok.1 e
    cases e
    exact Node.Grows.refl _
  mkdirp fs p := if hp : ∀ c ∈ p, ValidName c then fs.makedirs p hp else .error (.notFound p)
  mkdirp_grows fs p fs' e := by
    simp only at e
    split at e
    · exact Fs.makedirs_grows e
    · cases e
  scriptsDir := ["slurm", "scripts"]
  scriptsDir_valid := by decide
  installCustomScripts := .ok
  instanceMetadata key := .error (.keyError key)

/-! ## A small host -/

/-- Slurm's directories on a small host: home `/h`, configuration `/e`, root `/s`. -/
def smallDirs : Dirs where
  slurm := ["s"]
  scripts := ["s", "scripts"]
  customScripts := ["s", "custom"]
  log := ["s", "log"]
  munge := ["m"]
  others := []
  pfx := ["usr"]
  etc := ["e"]
  state := ["st"]
  home := ["h"]
  valid := by decide

/-- Every command succeeds and prints nothing. -/
def quietEnv : Env := fun _ => ⟨0, "", "", false, false⟩

end SlurmSetup
