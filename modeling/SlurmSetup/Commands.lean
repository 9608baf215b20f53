import SlurmSetup.Main

/-!
# What the commands' answers can change

util's `run` keeps its default `check=True` wherever `setup.py` does not pass `check=False`, so
it returns only the answer of a command that started and exited 0 (`runAnswer_check`).
`setup_compute` takes `has_gpu` to be the return code of such a call (`setup.py:547-549`): it is
always 0, and `nvidia-smi` never runs.

That a command never runs is stated as non-interference: environments that answer every other
command alike (`AgreeOff`) give the same run. Each procedure that issues commands has a
congruence lemma; every command `setup_compute` issues besides `nvidia-smi` is a path (`/...`) or
starts with another letter.
-/

namespace SlurmSetup

/-- `env` and `env'` answer every command but `c` alike. -/
def AgreeOff (c : String) (env env' : Env) : Prop := ∀ cmd, cmd ≠ c → env cmd = env' cmd

theorem ne_of_head {a b : String} (h : a.data.head? ≠ b.data.head?) : a ≠ b := fun e => h (by rw [e])

/-- A path's text starts with `/`. -/
theorem Path.str_head (p : Path) : p.str.data.head? = some '/' := by
  unfold Path.str
  split
  · rfl
  · obtain ⟨n, p, rfl⟩ := List.exists_cons_of_ne_nil ‹_›
    rfl

/-- A test of the return code of a `check=True` call never takes its non-zero branch. -/
theorem run_check_ite {α : Type} {env : Env} {cmd : String} {t : Option Nat} {x y : Answer → Except PyError α} :
    (run env cmd t true >>= fun a => if a.returncode ≠ 0 then x a else y a) = run env cmd t true >>= y := by
  cases h : run env cmd t true with
  | error e => rfl
  | ok a =>
    obtain ⟨rfl, -, h0⟩ := runAnswer_check h
    simp [bind, Except.bind, h0]

/-! ## The procedures of `setup_compute` do not ask `nvidia-smi` -/

section
variable {env env' : Env} (hA : AgreeOff "nvidia-smi" env env')
include hA

theorem run_agree {cmd : String} (hc : cmd ≠ "nvidia-smi") (t : Option Nat) (k : Bool) :
    run env cmd t k = run env' cmd t k := by
  rw [run, run, hA cmd hc]

theorem runCmd_agree {cmd : String} (hc : cmd ≠ "nvidia-smi") (t : Option Nat) :
    runCmd env cmd t = runCmd env' cmd t := by
  rw [runCmd, runCmd, run_agree hA hc]

/-- A script is run as its path. -/
theorem runScripts_agree (cfg : Config) : ∀ ps, runScripts env cfg ps = runScripts env' cfg ps
  | [] => rfl
  | p :: ps => by
    have hp : env p.str = env' p.str := hA _ (ne_of_head (by rw [Path.str_head]; decide))
    simp only [runScripts, runScript, hp, runScripts_agree cfg ps]

theorem runCustomScriptsOn_agree (d : Dirs) (l : Lookup) (h : Host) :
    runCustomScriptsOn env d l h = runCustomScriptsOn env' d l h := by
  simp only [runCustomScriptsOn, runCustomScripts, runScripts_agree hA]

theorem changeUidGidSlurm_agree (d : Dirs) (cfg : Config) (h : Host) :
    changeUidGidSlurm env d cfg h = changeUidGidSlurm env' d cfg h := by
  have hg : env (groupmodCmd cfg.hybridConf.slurmGid) = env' (groupmodCmd cfg.hybridConf.slurmGid) :=
    hA _ (ne_of_head (by simp [groupmodCmd, toString, String.data_append]))
  have hu : env (usermodCmd cfg.hybridConf.slurmUid) = env' (usermodCmd cfg.hybridConf.slurmUid) :=
    hA _ (ne_of_head (by simp [usermodCmd, toString, String.data_append]))
  simp only [changeUidGidSlurm, changeUidSlurm, idModAnswer, hg, hu]

theorem setupNssSlurm_agree (u : Util) (d : Dirs) (h : Host) :
    setupNssSlurm u env d h = setupNssSlurm u env' d h := by
  simp only [setupNssSlurm]
  rw [run_agree hA ?_, runCmd_agree hA (by decide)]
  exact ne_of_head (by simp [toString, String.data_append])

end

/-- **`setup_compute` never runs `nvidia-smi`.** The `lspci` pipeline is run with
`check=True`, so when the call returns its return code, `has_gpu`, is 0: whatever `nvidia-smi`
would answer, every run of `setup_compute` is the same. -/
theorem setupCompute_nvidiaSmi (u : Util) (c : Collab) (env : Env) (d : Dirs) (l : Lookup) (h : Host)
    (a : Answer) : setupCompute u c (Function.update env "nvidia-smi" a) d l h = setupCompute u c env d l h := by
  have hA : AgreeOff "nvidia-smi" (Function.update env "nvidia-smi" a) env :=
    fun cmd hc => Function.update_noteq hc _ _
  simp only [setupCompute, run_check_ite, changeUidGidSlurm_agree hA, setupNssSlurm_agree hA,
    runCustomScriptsOn_agree hA, run_agree hA (by decide : "lspci | grep --ignore-case 'NVIDIA' | wc -l" ≠ "nvidia-smi")]
  simp (disch := decide) only [runCmd_agree hA]

end SlurmSetup
