import SlurmSetup.Host

/-!
# Operator scripts: `run_custom_scripts` (`setup.py:130-181`)

Discovery: the role picks category directories under `dirs.custom_scripts`; every regular
file `rglob` finds below them whose name does not end in `.disabled` is a script, in walk
order. The loop runs them one at a time; the first that cannot be started, runs past its
timeout or exits non-zero ends the loop with its exception, after its log lines.

A script's timeout is picked by substring tests on its whole path (`"/controller.d/" in
str(script)`, then compute, then login), not by the directory it was found in. Since names hold
no `/`, a test finds a directory of that name anywhere on the path (`slash_infix_chars`): below
`compute.d`, a subdirectory named `controller.d` gives its scripts the controller key.
-/

namespace SlurmSetup

/-- `p.name`: the last component. -/
def Path.name (p : Path) : String := p.getLast?.getD ""

/-- `custom_dirs` for the node's role (`setup.py:133-144`). -/
def customDirs (l : Lookup) (customDir : Path) : List Path :=
  if l.isController then [customDir ++ ["controller.d"]]
  else if l.instanceRole == "compute" then [customDir ++ ["compute.d"], customDir ++ ["nodeset.d"]]
  else if l.isLoginNode then [customDir ++ ["login.d"]]
  else []

/-- `custom_scripts` (`setup.py:145-150`). -/
def customScripts (t : Node) (l : Lookup) (customDir : Path) : List Path :=
  (customDirs l customDir).flatMap fun d =>
    (rglob t d).filter fun p => isFileAt t p && !p.name.endsWith ".disabled"

/-- `timeout` before its adjustment (`setup.py:156-163`): `cfg.get(key, 300)` for the first
category whose marker is in the path, `300` when none is. -/
def rawTimeout (cfg : Config) (s : String) : Int :=
  if strContains s "/controller.d/" then cfg.controllerTimeout.getD 300
  else if strContains s "/compute.d/" || strContains s "/nodeset.d/" then cfg.computeTimeout.getD 300
  else if strContains s "/login.d/" then cfg.loginTimeout.getD 300
  else 300

/-- `None if not timeout or timeout < 0 else timeout` (`setup.py:164`). -/
def adjustTimeout (timeout : Int) : Option Nat :=
  if timeout = 0 ∨ timeout < 0 then none else some timeout.toNat

/-- The timeout a script runs with. -/
def scriptTimeout (cfg : Config) (script : Path) : Option Nat := adjustTimeout (rawTimeout cfg script.str)

/-- `f"{timeout}"` for `None` or a number. -/
def timeoutRepr : Option Nat → String
  | none => "None"
  | some n => toString n

/-- One turn of the loop (`setup.py:155-181`): the timeout `run` is called with, the log lines,
and the exception that leaves the loop, if any. -/
def runScript (env : Env) (cfg : Config) (script : Path) : Option Nat × List LogRecord × Option PyError :=
  let timeout := scriptTimeout cfg script
  let name := script.name
  let cmd := script.str
  let shown := timeoutRepr timeout
  let start : LogRecord := ⟨.info, s!"running script {name} with timeout={shown}"⟩
  (timeout, match runAnswer cmd (env cmd) timeout false with
  | .error (.osError c) => ([start, ⟨.error, s!"script {cmd} is not executable"⟩], some (.osError c))
  | .error (.timeoutExpired c t) =>
    ([start, ⟨.error, s!"script {cmd} did not complete within timeout={shown}"⟩], some (.timeoutExpired c t))
  | .error e => ([start, ⟨.error, s!"script {cmd} encountered an exception"⟩], some e)
  | .ok result =>
    let rc := result.returncode
    let out := result.stdout
    let err := result.stderr
    let runlog : LogRecord := ⟨.info, s!"{name} returncode={rc}\nstdout={out}stderr={err}"⟩
    if rc ≠ 0 then
      ([start, runlog, ⟨.error, s!"script {cmd} encountered an exception"⟩], some (.calledProcessError cmd rc))
    else ([start, runlog], none))

/-- What the loop did: the commands it ran with the timeouts `run` was called with, in order,
its log, and the exception it raised. -/
structure ScriptsRun where
  ran : List (String × Option Nat)
  log : List LogRecord
  error : Option PyError

/-- The loop over `custom_scripts`, stopping at the first exception. -/
def runScripts (env : Env) (cfg : Config) : List Path → ScriptsRun
  | [] => ⟨[], [], none⟩
  | script :: rest =>
    match runScript env cfg script with
    | (timeout, log, some e) => ⟨[(script.str, timeout)], log, some e⟩
    | (timeout, log, none) =>
      let r := runScripts env cfg rest
      ⟨(script.str, timeout) :: r.ran, log ++ r.log, r.error⟩

/-- `run_custom_scripts()` on the tree `t`. -/
def runCustomScripts (env : Env) (d : Dirs) (l : Lookup) (t : Node) : ScriptsRun :=
  let customDir := d.customScripts
  let scripts := customScripts t l customDir
  let printScripts := ",".intercalate (scripts.map fun s => "/".intercalate (s.drop customDir.length))
  let customDirStr := customDir.str
  let r := runScripts env l.cfg scripts
  { r with log := ⟨.debug, s!"custom scripts to run: {customDirStr}/({printScripts})"⟩ :: r.log }

/-! ## The loop -/

/-- The category directories of a role, as the spec lists them. -/
def roleCategories : String → List String
  | "controller" => ["controller.d"]
  | "compute" => ["compute.d", "nodeset.d"]
  | "login" => ["login.d"]
  | _ => []

/-- A script starts, ends within its timeout, and exits 0. -/
def scriptSucceeds (env : Env) (cfg : Config) (p : Path) : Bool :=
  !(env p.str).startFails && !((scriptTimeout cfg p).isSome && (env p.str).hangs) && (env p.str).returncode == 0

/-- The exception of a script that does not succeed: `OSError`, `TimeoutExpired`, or the
`CalledProcessError` of its exit code. -/
def scriptException (env : Env) (cfg : Config) (p : Path) : PyError :=
  if (env p.str).startFails then .osError p.str
  else if (scriptTimeout cfg p).isSome && (env p.str).hangs then .timeoutExpired p.str (scriptTimeout cfg p)
  else .calledProcessError p.str (env p.str).returncode

section
variable (env : Env) (cfg : Config)

/-- `run` is called with the script's timeout. -/
theorem runScript_timeout (p : Path) : (runScript env cfg p).1 = scriptTimeout cfg p := rfl

theorem runScript_error (p : Path) :
    (runScript env cfg p).2.2 = if scriptSucceeds env cfg p then none else some (scriptException env cfg p) := by
  unfold runScript scriptSucceeds scriptException runAnswer
  cases hs : (env p.str).startFails <;> cases ht : (scriptTimeout cfg p).isSome <;>
    cases hh : (env p.str).hangs <;> by_cases hr : (env p.str).returncode = 0 <;> simp [hs, ht, hh, hr]

theorem runScripts_spec : ∀ S : List Path,
    (runScripts env cfg S).ran =
        (S.takeWhile (scriptSucceeds env cfg) ++ (S.dropWhile (scriptSucceeds env cfg)).take 1).map
          (fun p => (p.str, scriptTimeout cfg p)) ∧
      (runScripts env cfg S).error = (S.dropWhile (scriptSucceeds env cfg)).head?.map (scriptException env cfg)
  | [] => by simp [runScripts]
  | p :: S => by
    have he := runScript_error env cfg p
    have ht := runScript_timeout env cfg p
    rcases hr : runScript env cfg p with ⟨t, log, e⟩
    rw [hr] at he ht
    subst ht
    simp only [runScripts, hr]
    cases hp : scriptSucceeds env cfg p
    · simp only [hp, Bool.false_eq_true, if_false] at he
      subst he
      simp [hp]
    · simp only [hp, if_true] at he
      subst he
      simp [hp, runScripts_spec S]

end

/-- The code's category directories are the spec's. -/
theorem customDirs_eq (l : Lookup) (customDir : Path) :
    customDirs l customDir = (roleCategories l.instanceRole).map fun c => customDir ++ [c] := by
  unfold customDirs Lookup.isController Lookup.isLoginNode
  generalize l.instanceRole = r
  by_cases h1 : r = "controller"
  · subst h1; rfl
  by_cases h2 : r = "compute"
  · subst h2; rfl
  by_cases h3 : r = "login"
  · subst h3; rfl
  simp [h1, h2, h3, roleCategories]

/-- **`run_custom_scripts`, for every tree and every outcome of every script.** Let `D` be the
regular files `rglob` finds under the role's category directories, in the role's order, whose
names do not end in `.disabled`. The scripts run are, in order, those of `D` up to and including
the first that does not succeed (all of `D` if none fails); the run raises exactly when one of
them did not succeed, and then raises that script's exception. -/
theorem runCustomScripts_spec (env : Env) (d : Dirs) (l : Lookup) (t : Node) :
    let D := (roleCategories l.instanceRole).flatMap fun c =>
      (rglob t (d.customScripts ++ [c])).filter fun p => isFileAt t p && !p.name.endsWith ".disabled"
    let ok := scriptSucceeds env l.cfg
    (runCustomScripts env d l t).ran.map Prod.fst = (D.takeWhile ok ++ (D.dropWhile ok).take 1).map Path.str ∧
      (runCustomScripts env d l t).error = (D.dropWhile ok).head?.map (scriptException env l.cfg) := by
  have hD : customScripts t l d.customScripts = (roleCategories l.instanceRole).flatMap fun c =>
      (rglob t (d.customScripts ++ [c])).filter fun p => isFileAt t p && !p.name.endsWith ".disabled" := by
    rw [customScripts, customDirs_eq, List.flatMap_map]
  simp only [runCustomScripts, ← hD, (runScripts_spec env l.cfg _).2, and_true, List.map_map]
  rw [(runScripts_spec env l.cfg _).1, List.map_map]
  rfl

/-! ## Timeouts -/

/-- Before `/`, a text without `/` ends only where a name ends. -/
theorem slash_prefix_iff {u v w : List Char} (hu : '/' ∉ u) (hv : '/' ∉ v) :
    u ++ ['/'] <+: v ++ '/' :: w ↔ u = v := by
  induction u generalizing v with
  | nil => cases v <;> simp_all
  | cons a u ih =>
    cases v with
    | nil =>
      simp only [List.cons_append, List.nil_append, List.cons_prefix_cons, reduceCtorEq, iff_false, not_and]
      intro h; exact absurd (h ▸ List.mem_cons_self _ _) hu
    | cons b v =>
      simp only [List.cons_append, List.cons_prefix_cons, List.cons.injEq]
      exact and_congr_right fun _ => ih (fun h => hu (List.mem_cons_of_mem _ h)) (fun h => hv (List.mem_cons_of_mem _ h))

/-- A text starting with `a` found in `x ++ T`, where `x` has no `a`, is found in `T`. -/
theorem infix_of_not_mem {a : Char} {l x T : List Char} (hx : a ∉ x) (h : a :: l <:+: x ++ T) : a :: l <:+: T := by
  induction x with
  | nil => exact h
  | cons b x ih =>
    rcases List.infix_cons_iff.1 h with h | h
    · exact absurd ((List.cons_prefix_cons.1 h).1 ▸ List.mem_cons_self _ _) hx
    · exact ih (fun h => hx (List.mem_cons_of_mem _ h)) h

/-- **Between two `/` of a path's text stands a name without `/` exactly when a directory on
the path has that name.** -/
theorem slash_infix_chars {c : String} (hc : ValidName c) :
    ∀ {p : Path}, (∀ x ∈ p, ValidName x) → ('/' :: (c.toList ++ ['/']) <:+: p.chars ↔ c ∈ p.dropLast)
  | [], _ => by simp [Path.chars]
  | [x], hp => by
    have hx := (hp x (List.mem_singleton_self _)).2
    simp only [Path.chars, List.flatMap_cons, List.flatMap_nil, List.append_nil, List.dropLast_single,
      List.not_mem_nil, iff_false]
    intro h
    rcases List.infix_cons_iff.1 h with h | h
    · exact hx ((List.prefix_cons_inj _).1 h |>.subset (List.mem_append_right _ (List.mem_singleton_self _)))
    · exact hx (h.subset (List.mem_cons_self _ _))
  | x :: y :: rest, hp => by
    have hx := (hp x (List.mem_cons_self _ _)).2
    have ih := slash_infix_chars hc (p := y :: rest) fun z hz => hp z (List.mem_cons_of_mem _ hz)
    have hT : Path.chars (y :: rest) = '/' :: (y.toList ++ Path.chars rest) := rfl
    rw [List.dropLast_cons₂, List.mem_cons, ← ih]
    show _ <:+: '/' :: (x.toList ++ Path.chars (y :: rest)) ↔ _
    constructor
    · intro h
      rcases List.infix_cons_iff.1 h with h | h
      · rw [List.prefix_cons_inj, hT] at h
        exact .inl (String.ext ((slash_prefix_iff hc.2 hx).1 h))
      · exact .inr (infix_of_not_mem hx h)
    · rintro (rfl | h)
      · rw [hT]; exact ⟨[], y.toList ++ Path.chars rest, by simp⟩
      · exact h.trans ⟨'/' :: x.toList, [], by simp⟩

theorem strContains_marker {p : Path} (hp : ∀ x ∈ p, ValidName x) {c : String} (hc : ValidName c) :
    strContains p.str ("/" ++ c ++ "/") = decide (c ∈ p.dropLast) := by
  have hm : ("/" ++ c ++ "/").toList = '/' :: (c.toList ++ ['/']) := by simp
  unfold strContains Path.str
  split
  · subst_vars
    simp only [hm, List.dropLast_nil, List.not_mem_nil, decide_False, decide_eq_false_iff_not]
    intro h
    have := h.length_le
    simp at this
  · rw [hm]
    exact decide_eq_decide.2 (slash_infix_chars hc hp)

/-- The timeout a script gets by the directories on its path: the first of `controller.d`,
then `compute.d` or `nodeset.d`, then `login.d` among them picks the key, `300` when none does. -/
def pathTimeout (cfg : Config) (p : Path) : Option Nat :=
  adjustTimeout <|
    if "controller.d" ∈ p.dropLast then cfg.controllerTimeout.getD 300
    else if "compute.d" ∈ p.dropLast ∨ "nodeset.d" ∈ p.dropLast then cfg.computeTimeout.getD 300
    else if "login.d" ∈ p.dropLast then cfg.loginTimeout.getD 300
    else 300

theorem scriptTimeout_eq_pathTimeout (cfg : Config) {p : Path} (hp : ∀ x ∈ p, ValidName x) :
    scriptTimeout cfg p = pathTimeout cfg p := by
  have e1 : "/controller.d/" = "/" ++ "controller.d" ++ "/" := rfl
  have e2 : "/compute.d/" = "/" ++ "compute.d" ++ "/" := rfl
  have e3 : "/nodeset.d/" = "/" ++ "nodeset.d" ++ "/" := rfl
  have e4 : "/login.d/" = "/" ++ "login.d" ++ "/" := rfl
  unfold scriptTimeout rawTimeout pathTimeout
  rw [e1, e2, e3, e4, strContains_marker hp (by decide), strContains_marker hp (by decide),
    strContains_marker hp (by decide), strContains_marker hp (by decide)]
  simp only [decide_eq_true_eq, Bool.or_eq_true]

theorem roleCategories_valid (r : String) : ∀ c ∈ roleCategories r, ValidName c := by
  unfold roleCategories
  split <;> decide

theorem customScripts_valid {t : Node} (ht : t.NamesValid) (l : Lookup) {customDir : Path}
    (hc : ∀ c ∈ customDir, ValidName c) : ∀ p ∈ customScripts t l customDir, ∀ c ∈ p, ValidName c := by
  intro p hp
  simp only [customScripts, customDirs_eq, List.flatMap_map, List.mem_flatMap, List.mem_filter] at hp
  obtain ⟨cat, hcat, hp, -⟩ := hp
  exact rglob_valid ht (valid_append hc (by simpa using roleCategories_valid _ cat hcat)) p hp

/-- **The timeout of every script run is its path's.** Each script `run_custom_scripts` runs is
one it found, and `run` gets the timeout chosen by the first of `controller.d`, then `compute.d`
or `nodeset.d`, then `login.d` that names a directory anywhere on its path (the configured value
when positive, none when `0` or negative, `300` when the key is absent), `300` when none does:
the run is recorded with it, and a `TimeoutExpired` that ends the loop names it. -/
theorem runCustomScripts_timeout (env : Env) (d : Dirs) (l : Lookup) (fs : Fs) :
    (∀ x ∈ (runCustomScripts env d l fs.root).ran,
      ∃ p ∈ customScripts fs.root l d.customScripts, x = (p.str, pathTimeout l.cfg p)) ∧
    ∀ cmd t, (runCustomScripts env d l fs.root).error = some (.timeoutExpired cmd t) →
      ∃ p ∈ customScripts fs.root l d.customScripts, cmd = p.str ∧ t = pathTimeout l.cfg p ∧ t.isSome ∧
        (env cmd).hangs := by
  have hv := customScripts_valid fs.valid l (d.valid d.customScripts (by simp))
  refine ⟨fun x hx => ?_, fun cmd t he => ?_⟩
  · simp only [runCustomScripts, (runScripts_spec env l.cfg _).1, List.mem_map] at hx
    obtain ⟨p, hp, rfl⟩ := hx
    have hp : p ∈ customScripts fs.root l d.customScripts := by
      rcases List.mem_append.1 hp with h | h
      · exact List.takeWhile_subset _ h
      · exact (List.dropWhile_suffix _).subset (List.mem_of_mem_take h)
    exact ⟨p, hp, by rw [scriptTimeout_eq_pathTimeout l.cfg (hv p hp)]⟩
  · simp only [runCustomScripts, (runScripts_spec env l.cfg _).2, Option.map_eq_some'] at he
    obtain ⟨p, hp, he⟩ := he
    have hp : p ∈ customScripts fs.root l d.customScripts :=
      (List.dropWhile_suffix _).subset (List.mem_of_mem_head? hp)
    unfold scriptException at he
    split_ifs at he with h1 h2
    cases he
    simp only [Bool.and_eq_true] at h2
    exact ⟨p, hp, rfl, scriptTimeout_eq_pathTimeout l.cfg (hv p hp), h2.1, h2.2⟩

/-- A compute node; the controller key is `10`, the compute key `20`. -/
def nestedLookup : Lookup where
  cfg := {
    stateDiskDevice := none
    cloudsqlSecret := none
    slurmClusterName := "c"
    hybrid := false
    hybridConf := ⟨0, 0⟩
    slurmLogDir := ["l"]
    controllerTimeout := some 10
    computeTimeout := some 20
    loginTimeout := none }
  instanceRole := "compute"
  controlHost := "ctl"
  controlAddr := none
  controlHostPort := "6817"
  hostname := "node0"
  hybridSetup := false

/-- `compute.d` holds a directory `controller.d` with a script `x.sh`. -/
def nestedScriptsFs : Fs where
  root := .dir [("s", .dir [("custom", .dir [("compute.d", .dir [("controller.d", .dir [("x.sh", .file "")])])])])]
  owner := fun _ => Owner.root
  valid := by simp [Node.NamesValid, Node.EntriesValid, ValidName]
  nodup := by simp [Node.NamesNodup, Node.EntriesNamesNodup]
  rootDir := rfl

/-- The script below `compute.d` runs with the controller key. -/
theorem runCustomScripts_nested :
    nestedLookup.cfg.computeTimeout = some 20 ∧
      (runCustomScripts quietEnv smallDirs nestedLookup nestedScriptsFs.root).ran =
        [("/s/custom/compute.d/controller.d/x.sh", some 10)] := by
  decide

theorem runCustomScripts_timeout_nested :
    ∃ p ∈ customScripts nestedScriptsFs.root nestedLookup smallDirs.customScripts,
      ("/s/custom/compute.d/controller.d/x.sh", some 10) = (p.str, pathTimeout nestedLookup.cfg p) :=
  (runCustomScripts_timeout quietEnv smallDirs nestedLookup nestedScriptsFs).1 _ (by decide)

end SlurmSetup
