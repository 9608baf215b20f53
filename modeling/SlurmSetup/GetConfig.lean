import SlurmSetup.Host

/-!
# Waiting for the configuration: `get_config` (`setup.py:598-612`)

Each attempt calls `util.fetch_config` and `util.update_config`; any exception is caught, logged
(a warning for `DeffetiveStoredConfigError`, an error otherwise) and followed by a 5 second
sleep. The loop ends after the first attempt in which both calls succeed, and never otherwise.

The attempts' outcomes are a sequence indexed by attempt; `fuel` bounds the attempts looked at,
`none` meaning the loop is still running.
-/

namespace SlurmSetup

/-- One attempt's calls: what `util.fetch_config(bucket=bucket)` returns or raises, and the
exception `util.update_config(cfg)` raises, if any. -/
structure Attempt where
  fetch : Except PyError Config
  update : Option PyError

/-- Modelled from the spec: util's `update_config(cfg)` (not under src/) installs `cfg` as the
active configuration (§4.1); the rest of `lookup()` stays. -/
def updateConfig (cfg : Config) (l : Lookup) : Lookup := { l with cfg := cfg }

/-- The `try` body of one attempt (`setup.py:602-606`). -/
def tryAttempt (bucket : Option String) (a : Attempt) (l : Lookup) : Except PyError Lookup := do
  let cfg ← a.fetch
  if let some e := a.update then throw e
  let l := updateConfig cfg l
  if bucket.isSome then pure { l with hybridSetup := true } else pure l

/-- What `get_config` reads and writes: `lookup()`, the log, and the sleeps in seconds. -/
structure GetConfigState where
  lookup : Lookup
  log : List LogRecord
  slept : List Nat

/-- The log line of a failed attempt (`setup.py:607-611`). -/
def attemptFailLog (sleepSeconds : Nat) : PyError → LogRecord
  | .deffetiveStoredConfig e => ⟨.warning, s!"config is not ready yet: {e}, sleeping for {sleepSeconds}s"⟩
  | _ => ⟨.error, s!"unexpected error while fetching config, sleeping for {sleepSeconds}s"⟩

/-- The loop from attempt `i` on, looking at `fuel` attempts at most. -/
def getConfigLoop (bucket : Option String) (attempts : Nat → Attempt) (sleepSeconds : Nat) :
    Nat → Nat → GetConfigState → Option GetConfigState
  | 0, _, _ => none
  | fuel + 1, i, s =>
    match tryAttempt bucket (attempts i) s.lookup with
    | .ok l => some { s with lookup := l, log := s.log ++ [⟨.info, "Config fetched"⟩] }
    | .error e =>
      getConfigLoop bucket attempts sleepSeconds fuel (i + 1)
        { s with log := s.log ++ [attemptFailLog sleepSeconds e], slept := s.slept ++ [sleepSeconds] }

/-- `get_config(bucket)`. -/
def getConfig (bucket : Option String) (attempts : Nat → Attempt) (fuel : Nat) (s : GetConfigState) :
    Option GetConfigState :=
  let sleepSeconds := 5
  getConfigLoop bucket attempts sleepSeconds fuel 0 s

/-! ## The loop -/

/-- The exception an attempt raises, if any. -/
def Attempt.error? (a : Attempt) : Option PyError :=
  match a.fetch with
  | .error e => some e
  | .ok _ => a.update

/-- Both calls of an attempt succeed. -/
def Attempt.Succeeds (a : Attempt) : Prop := a.fetch.isOk ∧ a.update = none

instance Attempt.decSucceeds (a : Attempt) : Decidable a.Succeeds := inferInstanceAs (Decidable (_ ∧ _))

theorem tryAttempt_ok {bucket : Option String} {a : Attempt} {l : Lookup} {cfg : Config}
    (hf : a.fetch = .ok cfg) (hu : a.update = none) :
    tryAttempt bucket a l = .ok { l with cfg := cfg, hybridSetup := bucket.isSome || l.hybridSetup } := by
  cases bucket <;> simp [tryAttempt, hf, hu, updateConfig, bind, Except.bind, pure, Except.pure]

theorem tryAttempt_error {bucket : Option String} {a : Attempt} {l : Lookup} (h : ¬ a.Succeeds) :
    ∃ e, a.error? = some e ∧ tryAttempt bucket a l = .error e := by
  unfold Attempt.Succeeds at h
  cases hf : a.fetch with
  | error e => exact ⟨e, by simp [Attempt.error?, hf], by simp [tryAttempt, hf, bind, Except.bind]⟩
  | ok cfg =>
    cases hu : a.update with
    | none => simp [hf, hu, Except.isOk, Except.toBool] at h
    | some e => exact ⟨e, by simp [Attempt.error?, hf, hu],
        by simp [tryAttempt, hf, hu, bind, Except.bind, throw, throwThe, MonadExceptOf.throw]⟩

section Loop

variable (bucket : Option String) (attempts : Nat → Attempt) (sleepSeconds : Nat)

/-- The log lines of the failed attempts `i, …, i + n - 1`. -/
def failLogs (i n : Nat) : List LogRecord :=
  (List.range' i n).filterMap fun j => (attempts j).error?.map (attemptFailLog sleepSeconds)

/-- A failed attempt logs, sleeps, and the loop goes on with the next. -/
theorem getConfigLoop_fail {fuel i : Nat} {s : GetConfigState} {e : PyError}
    (hte : tryAttempt bucket (attempts i) s.lookup = .error e) :
    getConfigLoop bucket attempts sleepSeconds (fuel + 1) i s =
      getConfigLoop bucket attempts sleepSeconds fuel (i + 1)
        { s with log := s.log ++ [attemptFailLog sleepSeconds e], slept := s.slept ++ [sleepSeconds] } := by
  simp only [getConfigLoop, hte]

/-- From attempt `i`, when the attempts before `i + k` fail and attempt `i + k` succeeds, the
loop runs `k + 1` attempts and returns after the last. -/
theorem getConfigLoop_first_success {cfg : Config} :
    ∀ k i s, (∀ j < k, ¬ (attempts (i + j)).Succeeds) → (attempts (i + k)).fetch = .ok cfg →
      (attempts (i + k)).update = none →
      (∀ fuel ≤ k, getConfigLoop bucket attempts sleepSeconds fuel i s = none) ∧
      ∀ fuel > k, getConfigLoop bucket attempts sleepSeconds fuel i s =
        some { lookup := { s.lookup with cfg := cfg, hybridSetup := bucket.isSome || s.lookup.hybridSetup }
               log := s.log ++ failLogs attempts sleepSeconds i k ++ [⟨.info, "Config fetched"⟩]
               slept := s.slept ++ List.replicate k sleepSeconds }
  | 0, i, s, _, hf, hu => by
    rw [Nat.add_zero] at hf hu
    refine ⟨fun fuel h => by rw [Nat.le_zero.1 h]; rfl, fun fuel h => ?_⟩
    obtain ⟨fuel, rfl⟩ := Nat.exists_eq_add_of_lt h
    simp [getConfigLoop, tryAttempt_ok hf hu, failLogs]
  | k + 1, i, s, hfail, hf, hu => by
    have h0 := hfail 0 (by omega)
    rw [Nat.add_zero] at h0
    obtain ⟨e, he, hte⟩ := @tryAttempt_error bucket (attempts i) s.lookup h0
    have ih := getConfigLoop_first_success k (i + 1)
      { s with log := s.log ++ [attemptFailLog sleepSeconds e], slept := s.slept ++ [sleepSeconds] }
      (fun j hj => by rw [Nat.add_right_comm]; exact hfail (j + 1) (by omega))
      (by rwa [Nat.add_right_comm]) (by rwa [Nat.add_right_comm])
    refine ⟨fun fuel h => ?_, fun fuel h => ?_⟩
    · cases fuel with
      | zero => rfl
      | succ fuel => rw [getConfigLoop_fail _ _ _ hte]; exact ih.1 fuel (by omega)
    · obtain ⟨fuel, rfl⟩ := Nat.exists_eq_add_of_lt h
      rw [show k + 1 + fuel + 1 = (k + fuel + 1) + 1 by omega, getConfigLoop_fail _ _ _ hte, ih.2 _ (by omega)]
      simp [failLogs, List.range'_succ, he]
      rw [← List.replicate_succ, List.replicate_succ']

/-- When no attempt succeeds the loop never returns. -/
theorem getConfigLoop_no_success (h : ∀ k, ¬ (attempts k).Succeeds) :
    ∀ fuel i s, getConfigLoop bucket attempts sleepSeconds fuel i s = none
  | 0, _, _ => rfl
  | fuel + 1, i, s => by
    obtain ⟨e, -, hte⟩ := @tryAttempt_error bucket (attempts i) s.lookup (h i)
    rw [getConfigLoop_fail _ _ _ hte]
    exact getConfigLoop_no_success h fuel _ _

end Loop

/-- **`get_config` returns after the first attempt in which both calls succeed.** No exception
leaves it: every one is caught. If attempt `k` (counting from 0) is the first in which
`fetch_config` returns a configuration `cfg` and `update_config(cfg)` returns, `get_config` has
not returned after `k` attempts and returns right after attempt `k`. By then it has slept
5 seconds once per failed attempt and installed `cfg`. It has set `hybrid_setup` when a bucket
is given, and left it as it was otherwise. If no attempt succeeds it never returns. -/
theorem getConfig_spec (bucket : Option String) (attempts : Nat → Attempt) (s : GetConfigState) :
    (∀ k cfg, (∀ j < k, ¬ (attempts j).Succeeds) → (attempts k).fetch = .ok cfg →
        (attempts k).update = none →
      (∀ fuel ≤ k, getConfig bucket attempts fuel s = none) ∧
      ∀ fuel > k, getConfig bucket attempts fuel s =
        some { lookup := { s.lookup with cfg := cfg, hybridSetup := bucket.isSome || s.lookup.hybridSetup }
               log := s.log ++ failLogs attempts 5 0 k ++ [⟨.info, "Config fetched"⟩]
               slept := s.slept ++ List.replicate k 5 }) ∧
    ((∀ k, ¬ (attempts k).Succeeds) → ∀ fuel, getConfig bucket attempts fuel s = none) :=
  ⟨fun k _ hfail hf hu => getConfigLoop_first_success bucket attempts 5 k 0 s (by simpa using hfail)
      (by simpa using hf) (by simpa using hu),
    fun h fuel => getConfigLoop_no_success bucket attempts 5 h fuel 0 s⟩

/-- A configuration. -/
def sampleCfg : Config where
  stateDiskDevice := none
  cloudsqlSecret := none
  slurmClusterName := "c"
  hybrid := false
  hybridConf := ⟨0, 0⟩
  slurmLogDir := ["l"]
  controllerTimeout := none
  computeTimeout := none
  loginTimeout := none

/-- The attempts find no stored configuration, then fail to install it, then succeed. -/
def lateAttempts : Nat → Attempt
  | 0 => ⟨.error (.deffetiveStoredConfig "missing"), none⟩
  | 1 => ⟨.ok sampleCfg, some (.keyError "slurm_cluster_name")⟩
  | _ => ⟨.ok sampleCfg, none⟩

/-- A fresh `lookup()` of a compute node. -/
def sampleState : GetConfigState where
  lookup := ⟨sampleCfg, "compute", "ctl", none, "6817", "node-0", false⟩
  log := []
  slept := []

theorem getConfig_spec_late :
    (∀ j < 2, ¬ (lateAttempts j).Succeeds) ∧
      getConfig (some "bucket") lateAttempts 3 sampleState =
        some { lookup := { sampleState.lookup with cfg := sampleCfg, hybridSetup := true }
               log := failLogs lateAttempts 5 0 2 ++ [⟨.info, "Config fetched"⟩]
               slept := [5, 5] } :=
  ⟨by decide, (getConfig_spec (some "bucket") lateAttempts sampleState).1 2 sampleCfg (by decide) rfl rfl |>.2 3
    (by decide)⟩

example : failLogs lateAttempts 5 0 2 =
    [⟨.warning, "config is not ready yet: missing, sleeping for 5s"⟩,
     ⟨.error, "unexpected error while fetching config, sleeping for 5s"⟩] := by decide

end SlurmSetup
